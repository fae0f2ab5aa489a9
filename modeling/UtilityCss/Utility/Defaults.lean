import UtilityCss.Utility.Entry

namespace UtilityCss.Entry

def sizingKeywords : List (String × String) :=
  [("auto", "auto"), ("min", "min-content"), ("max", "max-content"), ("fit", "fit-content")]

def declare (property value : String) : Entry :=
  .declaration ⟨[property], .shared value, []⟩

def pinned (variants : List String) (pairs : List (String × String)) : Entry :=
  .declaration ⟨pairs.map Prod.fst, .each (pairs.map Prod.snd), variants⟩

def declareAll (pairs : List (String × String)) : Entry :=
  pinned [] pairs

def looked (lookup : Option String) (properties : List String) (keywords : List (String × String)) :
    Entry :=
  .group ⟨properties, lookup, .ofList keywords⟩

def standard : Table String Entry := .ofList [
  ("flex", declare "display" "flex"),
  ("inline-flex", declare "display" "inline-flex"),
  ("grid", declare "display" "grid"),
  ("hidden", declare "display" "none"),
  ("block", declare "display" "block"),
  ("inline-block", declare "display" "inline-block"),
  ("inline", declare "display" "inline"),
  ("relative", declare "position" "relative"),
  ("absolute", declare "position" "absolute"),
  ("fixed", declare "position" "fixed"),
  ("sticky", declare "position" "sticky"),
  ("overflow-hidden", declare "overflow" "hidden"),
  ("overflow-auto", declare "overflow" "auto"),
  ("items-center", declare "align-items" "center"),
  ("items-start", declare "align-items" "flex-start"),
  ("items-end", declare "align-items" "flex-end"),
  ("justify-center", declare "justify-content" "center"),
  ("justify-between", declare "justify-content" "space-between"),
  ("justify-start", declare "justify-content" "flex-start"),
  ("justify-end", declare "justify-content" "flex-end"),
  ("flex-row", declare "flex-direction" "row"),
  ("flex-col", declare "flex-direction" "column"),
  ("flex-grow", declare "flex-grow" "1"),
  ("flex-wrap", declare "flex-wrap" "wrap"),
  ("flex-1", declare "flex" "1 1 0%"),
  ("shrink-0", declare "flex-shrink" "0"),
  ("w-full", declare "width" "100%"),
  ("h-full", declare "height" "100%"),
  ("w-screen", declare "width" "100vw"),
  ("h-screen", declare "height" "100vh"),
  ("min-h-screen", declare "min-height" "100vh"),
  ("w", looked none ["width"] sizingKeywords),
  ("h", looked none ["height"] sizingKeywords),
  ("min-w", looked none ["min-width"] sizingKeywords),
  ("min-h", looked none ["min-height"] sizingKeywords),
  ("max-w", looked (some "maxWidth") ["max-width"] sizingKeywords),
  ("max-h", looked none ["max-height"] ([("screen", "100vh")] ++ sizingKeywords)),
  ("m", looked none ["margin"] [("auto", "auto")]),
  ("mt", looked none ["margin-top"] [("auto", "auto")]),
  ("mr", looked none ["margin-right"] [("auto", "auto")]),
  ("mb", looked none ["margin-bottom"] [("auto", "auto")]),
  ("ml", looked none ["margin-left"] [("auto", "auto")]),
  ("mx", looked none ["margin-left", "margin-right"] [("auto", "auto")]),
  ("my", looked none ["margin-top", "margin-bottom"] [("auto", "auto")]),
  ("p", looked none ["padding"] []),
  ("pt", looked none ["padding-top"] []),
  ("pr", looked none ["padding-right"] []),
  ("pb", looked none ["padding-bottom"] []),
  ("pl", looked none ["padding-left"] []),
  ("px", looked none ["padding-left", "padding-right"] []),
  ("py", looked none ["padding-top", "padding-bottom"] []),
  ("gap", looked none ["gap"] []),
  ("gap-x", looked none ["column-gap"] []),
  ("gap-y", looked none ["row-gap"] []),
  ("inset", looked none ["top", "right", "bottom", "left"] [("auto", "auto"), ("full", "100%")]),
  ("inset-x", looked none ["left", "right"] [("auto", "auto"), ("full", "100%")]),
  ("inset-y", looked none ["top", "bottom"] [("auto", "auto"), ("full", "100%")]),
  ("top", looked none ["top"] [("auto", "auto"), ("full", "100%")]),
  ("right", looked none ["right"] [("auto", "auto"), ("full", "100%")]),
  ("bottom", looked none ["bottom"] [("auto", "auto"), ("full", "100%")]),
  ("left", looked none ["left"] [("auto", "auto"), ("full", "100%")]),
  ("font-light", declare "font-weight" "300"),
  ("font-normal", declare "font-weight" "400"),
  ("font-medium", declare "font-weight" "500"),
  ("font-semibold", declare "font-weight" "600"),
  ("font-bold", declare "font-weight" "700"),
  ("tracking-tighter", declare "letter-spacing" "-0.05em"),
  ("tracking-tight", declare "letter-spacing" "-0.025em"),
  ("tracking-wide", declare "letter-spacing" "0.025em"),
  ("leading-none", declare "line-height" "1"),
  ("leading-tight", declare "line-height" "1.25"),
  ("leading-relaxed", declare "line-height" "1.625"),
  ("text-center", declare "text-align" "center"),
  ("text-left", declare "text-align" "left"),
  ("text-right", declare "text-align" "right"),
  ("uppercase", declare "text-transform" "uppercase"),
  ("italic", declare "font-style" "italic"),
  ("underline", declare "text-decoration-line" "underline"),
  ("truncate", declareAll
    [("overflow", "hidden"), ("text-overflow", "ellipsis"), ("white-space", "nowrap")]),
  ("border", declareAll
    [("border-width", "1px"), ("border-style", "solid")]),
  ("border-t", declareAll
    [("border-top-width", "1px"), ("border-style", "solid")]),
  ("border-r", declareAll
    [("border-right-width", "1px"), ("border-style", "solid")]),
  ("border-b", declareAll
    [("border-bottom-width", "1px"), ("border-style", "solid")]),
  ("border-l", declareAll
    [("border-left-width", "1px"), ("border-style", "solid")]),
  ("transition", declare "transition" "all 0.3s cubic-bezier(0.4, 0, 0.2, 1)"),
  ("cursor-pointer", declare "cursor" "pointer"),
  ("select-none", declare "user-select" "none"),
  ("pointer-events-none", declare "pointer-events" "none"),
  ("active-scale", pinned ["active"] [("transform", "scale(0.96)")]),
  ("press-scale", pinned ["focus", "active"] [("transform", "scale(0.96)")]),
  ("focus-glow-blue", pinned ["focus"]
    [("outline", "none"), ("box-shadow", "0 0 0 3px rgba(0, 212, 255, 0.35)")]),
  ("focus-glow-purple", pinned ["focus"]
    [("outline", "none"), ("box-shadow", "0 0 0 3px rgba(168, 85, 247, 0.35)")]),
  ("glass", declareAll
    [("background-color", "rgba(255, 255, 255, 0.03)"), ("backdrop-filter", "blur(16px)"),
     ("-webkit-backdrop-filter", "blur(16px)"), ("border", "1px solid rgba(255, 255, 255, 0.1)"),
     ("box-shadow", "0 8px 32px 0 rgba(0, 0, 0, 0.37)")]),
  ("glow-blue", declare "box-shadow" "0 0 30px rgba(0, 212, 255, 0.25)"),
  ("bg-starlight", declare "background" "linear-gradient(135deg, #ffb38a 0%, #00d4ff 100%)"),
  ("text-gradient-starlight", declareAll
    [("background", "linear-gradient(to right, #ffb38a, #00d4ff)"),
     ("-webkit-background-clip", "text"), ("-webkit-text-fill-color", "transparent"),
     ("display", "inline-block")]),
  ("text-gradient", declareAll
    [("background-clip", "text"), ("-webkit-background-clip", "text"),
     ("-webkit-text-fill-color", "transparent"), ("color", "transparent")]),
  ("skeleton", declareAll
    [("background-color", "rgba(255, 255, 255, 0.1)"),
     ("background-image", "linear-gradient(90deg, transparent, rgba(255,255,255,0.15), transparent)"),
     ("background-size", "200% 100%"), ("background-repeat", "no-repeat"),
     ("border-radius", "0.5rem"), ("width", "100%"), ("height", "1rem")]),
  ("dialog-overlay", declareAll
    [("position", "fixed"), ("top", "0"), ("left", "0"), ("width", "100vw"), ("height", "100vh"),
     ("background", "rgba(0, 0, 0, 0.6)"), ("backdrop-filter", "blur(12px)"), ("z-index", "400")]),
  ("center", .preset
    "flex items-center justify-center"),
  ("stack", .preset
    "flex flex-col space-y-4"),
  ("card", .preset
    "p-6 rounded-xl bg-white shadow-md"),
  ("btn", .preset
    "inline-flex items-center justify-center px-4 py-2 rounded-lg font-medium transition cursor-pointer"),
  ("btn-primary", .preset
    "btn bg-blue-500 text-white hover:bg-blue-600"),
  ("btn-starlight", .preset
    "btn bg-starlight text-black font-bold glow-blue"),
  ("btn-secondary", .preset
    "btn glass text-inherit"),
  ("dialog-content", .preset
    "glass rounded-3xl w-full max-w-2xl shadow-xl overflow-hidden relative")]

end UtilityCss.Entry
