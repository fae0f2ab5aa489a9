namespace UtilityCss.Text

def inRanges (ranges : List (Nat × Nat)) (c : Char) : Bool :=
  ranges.any fun r => r.1 ≤ c.toNat && c.toNat ≤ r.2

def blankRanges : List (Nat × Nat) :=
  [(0x9, 0xD), (0x1C, 0x20), (0x85, 0x85), (0xA0, 0xA0), (0x1680, 0x1680), (0x2000, 0x200A),
   (0x2028, 0x2029), (0x202F, 0x202F), (0x205F, 0x205F), (0x3000, 0x3000)]

def isBlank (c : Char) : Bool :=
  inRanges blankRanges c

def dropBlanks (cs : List Char) : List Char :=
  cs.dropWhile isBlank

def trimBy (p : Char → Bool) (cs : List Char) : List Char :=
  ((cs.dropWhile p).reverse.dropWhile p).reverse

def trim (cs : List Char) : List Char :=
  trimBy isBlank cs

def words (cs : List Char) : List (List Char) :=
  (cs.splitOnP isBlank).filter (!·.isEmpty)

theorem mem_words_ne_nil {cs w : List Char} (h : w ∈ words cs) : w ≠ [] := by
  intro hw
  simp [words, hw] at h

def wordsOf (s : String) : List String :=
  (words s.toList).map String.ofList

def trimmed (s : String) : String :=
  String.ofList (trim s.toList)

end UtilityCss.Text
