import UtilityCss.Markup
import UtilityCss.Proofs.Text.Words

namespace UtilityCss.Markup

open Text

def label : List Char :=
  ['c', 'l', 'a', 's', 's']

structure Attribute where
  beforeSign : List Char
  behindSign : List Char
  quote : Char
  value : List Char
  blank_before : Blanks beforeSign
  blank_behind : Blanks behindSign
  quote_eq : quote = '"' ∨ quote = '\''
  unquoted : quote ∉ value

def Attribute.text (a : Attribute) : List Char :=
  label ++ a.beforeSign ++ '=' :: a.behindSign ++ a.quote :: a.value ++ [a.quote]

def Plain (text : List Char) : Prop :=
  ¬ label <:+: text

instance (text : List Char) : Decidable (Plain text) :=
  inferInstanceAs (Decidable (¬ _))

/-- Other text and an attribute behind it, which is not the end of a longer name. -/
structure Section where
  filler : List Char
  attr : Attribute
  plain : Plain filler
  detached : ∀ c ∈ filler.getLast?, isWordChar c = false ∧ c ≠ '-'

def document (sections : List Section) (last : List Char) : List Char :=
  sections.flatMap (fun s => s.filler ++ s.attr.text) ++ last

variable {cs filler last rest value : List Char}

theorem dropBlanks_append {blanks : List Char} (h : Blanks blanks) (rest : List Char) :
    dropBlanks (blanks ++ rest) = dropBlanks rest :=
  List.dropWhile_append_of_pos h

theorem quotedValue?_append {quote : Char} (h : quote = '"' ∨ quote = '\'') (hv : quote ∉ value) (rest : List Char) :
    quotedValue? (quote :: value ++ quote :: rest) = some (value, rest) := by
  rcases h with rfl | rfl <;> exact cut?_append hv rest

theorem attribute?_text (a : Attribute) (rest : List Char) : attribute? (a.text ++ rest) = some (a.value, rest) := by
  have hfront : after? label (a.text ++ rest) =
      some (a.beforeSign ++ '=' :: (a.behindSign ++ (a.quote :: a.value ++ a.quote :: rest))) := by
    rw [after?_eq_some_iff]
    simp [Attribute.text]
  have hquote : isBlank a.quote = false := by
    rcases a.quote_eq with h | h <;> rw [h] <;> decide
  have hsign : dropBlanks (a.beforeSign ++ '=' :: (a.behindSign ++ (a.quote :: a.value ++ a.quote :: rest))) =
      '=' :: (a.behindSign ++ (a.quote :: a.value ++ a.quote :: rest)) :=
    dropBlanks_append a.blank_before _
  have hvalue : dropBlanks (a.behindSign ++ (a.quote :: a.value ++ a.quote :: rest)) =
      a.quote :: a.value ++ a.quote :: rest := by
    rw [dropBlanks_append a.blank_behind, dropBlanks, List.cons_append, List.dropWhile_cons_of_neg (by simp [hquote])]
  rw [attribute?, ← label, hfront, Option.bind_some, hsign]
  change quotedValue? (dropBlanks (a.behindSign ++ _)) = _
  rw [hvalue, quotedValue?_append a.quote_eq a.unquoted]

theorem attribute?_eq_none (h : ¬ label <+: cs) : attribute? cs = none := by
  have hfront : after? label cs = none := by
    rw [Option.eq_none_iff_forall_ne_some]
    intro rest hr
    exact h ⟨rest, (after?_eq_some_iff.1 hr).symm⟩
  rw [attribute?, ← label, hfront, Option.bind_none]

def underWay (inName : Bool) (text : List Char) : Bool :=
  (text.getLast?.map isWordOrHyphen).getD inName

theorem underWay_cons (inName : Bool) (c : Char) (text : List Char) :
    underWay inName (c :: text) = underWay (isWordOrHyphen c) text := by
  rw [underWay, underWay, List.getLast?_cons]
  cases text.getLast? <;> rfl

theorem values_append (h : ∀ back, back ≠ [] → back <:+ filler → ¬ label <+: back ++ rest) (inName : Bool) :
    values inName (filler ++ rest) = values (underWay inName filler) rest := by
  induction filler generalizing inName with
  | nil => rfl
  | cons c filler ih =>
    have hpass : values inName (c :: (filler ++ rest)) = values (isWordOrHyphen c) (filler ++ rest) := by
      have hnone : attribute? (c :: (filler ++ rest)) = none :=
        attribute?_eq_none (h (c :: filler) (List.cons_ne_nil c filler) (List.suffix_refl _))
      rw [values]
      split
      · rfl
      · split
        · rename_i hsome
          rw [hnone] at hsome
          cases hsome
        · rfl
    rw [List.cons_append, hpass, underWay_cons]
    exact ih (fun back hne hs => h back hne (hs.trans (List.suffix_cons c filler))) _

theorem not_label_prefix (hp : Plain filler) (hd : ∀ c ∈ filler.getLast?, isWordOrHyphen c = false)
    {back : List Char} (hne : back ≠ []) (hs : back <:+ filler) (rest : List Char) : ¬ label <+: back ++ rest := by
  intro hl
  rcases Nat.lt_or_ge back.length label.length with hshort | hlong
  · -- the text would end inside the name
    have hback : back <+: label := List.prefix_of_prefix_length_le (List.prefix_append back rest) hl hshort.le
    have hword : ∀ c ∈ label, isWordOrHyphen c = true := by decide
    obtain ⟨front, c, rfl⟩ := List.eq_nil_or_concat' back |>.resolve_left hne
    have hc : c ∈ filler.getLast? := by
      obtain ⟨start, rfl⟩ := hs
      simp
    have hlabel := hword c (hback.subset (by simp))
    rw [hd c hc] at hlabel
    cases hlabel
  · exact hp ((List.prefix_of_prefix_length_le hl (List.prefix_append back rest) hlong).isInfix.trans hs.isInfix)

theorem values_text (a : Attribute) (rest : List Char) :
    values false (a.text ++ rest) = a.value :: values false rest := by
  have hsome := attribute?_text a rest
  have hne : a.text ++ rest ≠ [] := by simp [Attribute.text, label]
  obtain ⟨c, text, ht⟩ := List.exists_cons_of_ne_nil hne
  rw [ht] at hsome ⊢
  rw [values, if_neg Bool.false_ne_true]
  split
  · rename_i hs
    rw [hsome] at hs
    cases hs
    rfl
  · rename_i hs
    rw [hsome] at hs
    cases hs

theorem values_section (s : Section) (rest : List Char) :
    values false (s.filler ++ (s.attr.text ++ rest)) = s.attr.value :: values false rest := by
  have hd : ∀ c ∈ s.filler.getLast?, isWordOrHyphen c = false := by
    intro c hc
    obtain ⟨hword, hhyphen⟩ := s.detached c hc
    simp [isWordOrHyphen, hword, hhyphen]
  have hflag : underWay false s.filler = false := by
    rw [underWay]
    cases hl : s.filler.getLast? with
    | none => rfl
    | some c => exact hd c hl
  rw [values_append fun back hne hs => not_label_prefix s.plain hd hne hs _, hflag, values_text]

theorem values_of_plain (h : Plain last) (inName : Bool) : values inName last = [] := by
  have hnone : ∀ back, back ≠ [] → back <:+ last → ¬ label <+: back ++ [] := by
    intro back _ hs hl
    rw [List.append_nil] at hl
    exact h (hl.isInfix.trans hs.isInfix)
  rw [← List.append_nil last, values_append hnone, values]

theorem values_document (sections : List Section) (h : Plain last) :
    values false (document sections last) = sections.map fun s => s.attr.value := by
  induction sections with
  | nil => exact values_of_plain h false
  | cons s sections ih =>
    have hdocument : document (s :: sections) last = s.filler ++ (s.attr.text ++ document sections last) := by
      simp [document]
    rw [hdocument, values_section, ih, List.map_cons]

/-- The classes of a markup text are exactly the words of the values of its class attributes. -/
theorem mem_classes_iff (sections : List Section) (h : Plain last) (token : String) :
    token ∈ classes (String.ofList (document sections last)) ↔
      ∃ s ∈ sections, Word token.toList s.attr.value := by
  rw [classes, String.toList_ofList, values_document sections h, List.flatMap_map, List.map_flatMap, List.mem_flatMap]
  apply exists_congr
  intro s
  rw [and_congr_right_iff]
  intro _
  rw [← mem_words_iff, List.mem_map]
  constructor
  · rintro ⟨w, hw, rfl⟩
    rwa [String.toList_ofList]
  · exact fun hw => ⟨_, hw, String.ofList_toList⟩

def quoting : Section where
  filler := "<p title='it\" ".toList
  attr := ⟨[' '], ['\n'], '"', "p-4\tclass='m-1'  =".toList, by decide, by decide, .inl rfl, by decide⟩
  plain := by decide +kernel
  detached := by decide

def touching : Section where
  filler := []
  attr := ⟨[], [], '\'', "flex\u00a0\"p-2\"".toList, by decide, by decide, .inr rfl, by decide⟩
  plain := by decide
  detached := by decide

theorem mem_classes_iff_touching :
    Plain ">subclas s='x'".toList ∧
      String.ofList (document [quoting, touching] ">subclas s='x'".toList) =
        "<p title='it\" class =\n\"p-4\tclass='m-1'  =\"class='flex\u00a0\"p-2\"'>subclas s='x'" ∧
      (∀ token ∈ ["p-4", "class='m-1'", "=", "flex", "\"p-2\""],
        token ∈ classes (String.ofList (document [quoting, touching] ">subclas s='x'".toList))) ∧
      "x" ∉ classes (String.ofList (document [quoting, touching] ">subclas s='x'".toList)) := by
  have hlast : Plain ">subclas s='x'".toList := by decide +kernel
  have hclasses := mem_classes_iff [quoting, touching] hlast
  simp only [List.exists_mem_cons_iff, List.not_mem_nil, false_and, exists_false, or_false, ← mem_words_iff] at hclasses
  refine ⟨hlast, by decide +kernel, ?_, ?_⟩
  · simp only [hclasses]
    decide +kernel
  · rw [hclasses]
    decide +kernel

end UtilityCss.Markup
