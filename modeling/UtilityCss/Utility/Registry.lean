import UtilityCss.Text.Cut
import UtilityCss.Utility.Defaults
import UtilityCss.Utility.Family

namespace UtilityCss

abbrev Registry := Table String Family

namespace Registry

def register (r : Registry) (name : String) (family : Family) : Except Fault Registry :=
  if r.contains name then .error (.alreadyRegistered name) else .ok (r.insert name family)

def names (r : Registry) : List String :=
  r.keys.mergeSort fun a b => !decide (b < a)

def join (parts : List String) : String :=
  "-".intercalate parts

def splitAt? (r : Registry) (parts : List String) (n : Nat) : Option (String × String) :=
  let name := join (parts.take n)
  if r.contains name then some (name, join (parts.drop n)) else none

def split? (r : Registry) (base : String) : Option (String × String) :=
  let parts := Text.pieces '-' base
  (List.range parts.length).reverse.findSome? fun n => splitAt? r parts (n + 1)

def families : List (String × Family) := [
  ("text", .text), ("bg", .background), ("bg-gradient-to", .gradientDirection),
  ("from", .gradientStop .first), ("via", .gradientStop .middle), ("to", .gradientStop .last),
  ("z", .zIndex), ("opacity", .opacity), ("aspect", .aspectRatio),
  ("grid-cols", .gridColumns), ("col-span", .columnSpan),
  ("space-x", .spaceBetween "margin-left"), ("space-y", .spaceBetween "margin-top"),
  ("rounded", .radius ["border-radius"]),
  ("rounded-t", .radius ["border-top-left-radius", "border-top-right-radius"]),
  ("rounded-r", .radius ["border-top-right-radius", "border-bottom-right-radius"]),
  ("rounded-b", .radius ["border-bottom-right-radius", "border-bottom-left-radius"]),
  ("rounded-l", .radius ["border-top-left-radius", "border-bottom-left-radius"]),
  ("scale", .scale), ("transition", .transition),
  ("duration", .timing "transition-duration"), ("delay", .timing "transition-delay"),
  ("ease", .ease), ("backdrop-blur", .backdropBlur), ("shadow", .shadow), ("border", .border)]

def registerAll (r : Registry) (entries : List (String × Family)) : Except Fault Registry :=
  entries.foldlM (fun r e => r.register e.1 e.2) r

def groupFamilies (utilities : Table String Entry) : List (String × Family) :=
  utilities.entries.filterMap fun e =>
    match e.2 with
    | .group g => some (e.1, .spacing g)
    | _ => none

def build (utilities : Table String Entry) : Except Fault Registry :=
  registerAll .empty (families ++ groupFamilies utilities)

def standard : Registry :=
  .ofList (families ++ groupFamilies Entry.standard)

end Registry

end UtilityCss
