import Conformance.Proofs.Divergence
import Conformance.Proofs.TextFault

/-!
# Reading paths

`Path.read?` takes a path apart into the keys that it was made from. A path is a plain text without
a mark at the end of its accessors, so the reader has to find those ends: a name ends before the
first character that no name holds, digits end at their bracket, and a quoted key ends at the first
quote that is not escaped. The main statement is that a path tells its keys, up to the digits of an
index: an index and a key of the same digits have one accessor.
-/

namespace Conformance.Path

/-! ### Keys in paths -/

/-- Is the key a text or an integer that can be written? -/
def IsSpellable (key : Value) : Prop :=
  (∃ s, key.string? = some s) ∨ ∃ n, key.integer? = some n ∧ ¬ IsOversized n

/-- The key as a path tells it. An integer that is not negative is told by its digits, as a key of
these digits is, and a box around a text or an integer is not told. -/
def toldKey (key : Value) : Value :=
  match key.integer?, key.string? with
  | some n, _ => if 0 ≤ n then .str (toString n) else .int n
  | none, some s => .str s
  | none, none => key

/-! ### Quoted text -/

def hexValue (c : Char) : Nat := if c.toNat < 58 then c.toNat - 48 else c.toNat - 87

def hexNumber (digits : List Char) : Nat := digits.foldl (fun n c => 16 * n + hexValue c) 0

def unescape : Char → Char
  | 'n' => '\n'
  | 'r' => '\r'
  | 't' => '\t'
  | 'b' => Char.ofNat 0x08
  | 'f' => Char.ofNat 0x0C
  | c => c

/-- Reads a quoted text behind its opening quote, and returns what follows the closing one. -/
def readQuoted : List Char → Option (List Char × List Char)
  | [] => none
  | '"' :: rest => some ([], rest)
  | '\\' :: 'u' :: a :: b :: c :: d :: rest =>
    (readQuoted rest).map fun q => (Char.ofNat (hexNumber [a, b, c, d]) :: q.1, q.2)
  | '\\' :: c :: rest => (readQuoted rest).map fun q => (unescape c :: q.1, q.2)
  | c :: rest => (readQuoted rest).map fun q => (c :: q.1, q.2)

theorem hexNumber_hexDigits : ∀ n < 0x20, hexNumber (Text.hexDigits 4 n) = n := by decide

theorem escapeCode_of_lt {n : Nat} (hn : n < 0x20) :
    ∃ a b c d, Text.escapeCode n = ['\\', 'u', a, b, c, d] ∧ hexNumber [a, b, c, d] = n := by
  have hunit : Text.escapeCode n = '\\' :: 'u' :: Text.hexDigits 4 n := by
    rw [Text.escapeCode, if_pos (by omega), Text.escapeUnit]
  have hnumber := hexNumber_hexDigits n hn
  exact ⟨_, _, _, _, hunit, hnumber⟩

/-- The written form of a character is read as that character, whatever follows. -/
theorem readQuoted_escape (c : Char) (rest : List Char) :
    readQuoted (Text.Repertoire.unicode.escape c ++ rest) =
      (readQuoted rest).map fun q => (c :: q.1, q.2) := by
  -- the quote and the backslash, then what stands for itself, and control characters in the end
  rw [Text.Repertoire.escape]
  split
  · rename_i h
    subst h
    rfl
  rename_i hquote
  split
  · rename_i h
    subst h
    rfl
  rename_i hslash
  split
  · rw [List.singleton_append, readQuoted.eq_def]
    split <;> simp_all
  rename_i hadmits
  have hlow : c.toNat < 0x20 := by
    simpa [Text.Repertoire.admits] using hadmits
  split
  · rename_i h
    subst h
    rfl
  split
  · rename_i h
    subst h
    rfl
  split
  · rename_i h
    subst h
    rfl
  split
  · rename_i h
    have hc : c = Char.ofNat 0x08 := by rw [← h, Char.ofNat_toNat]
    subst hc
    rfl
  split
  · rename_i h
    have hc : c = Char.ofNat 0x0C := by rw [← h, Char.ofNat_toNat]
    subst hc
    rfl
  · obtain ⟨x, y, z, w, hcode, hnumber⟩ := escapeCode_of_lt hlow
    rw [hcode]
    simp only [List.cons_append, List.nil_append, readQuoted, hnumber, Char.ofNat_toNat]

theorem readQuoted_quoteChars (s rest : List Char) :
    readQuoted (s.flatMap Text.Repertoire.unicode.escape ++ '"' :: rest) = some (s, rest) := by
  induction s with
  | nil => rfl
  | cons c s ih =>
    rw [List.flatMap_cons, List.append_assoc, readQuoted_escape, ih]
    rfl

/-! ### Accessors -/

def isNameChar (c : Char) : Bool := isHead c || c.isDigit

def readDigits (s : List Char) : Option (List Char × List Char) :=
  match s.dropWhile Char.isDigit with
  | ']' :: rest => some (s.takeWhile Char.isDigit, rest)
  | _ => none

/-- Reads the accessor at the front of a path, and returns its key and what follows. -/
def readAccessor : List Char → Option (Value × List Char)
  | '[' :: '"' :: rest =>
    match readQuoted rest with
    | some (name, ']' :: rest) => some (.str (String.ofList name), rest)
    | _ => none
  | '[' :: '-' :: rest =>
    (readDigits rest).map fun d => (.int (-(Nat.ofDigitChars 10 d.1 0 : Nat)), d.2)
  | '[' :: rest => (readDigits rest).map fun d => (.str (String.ofList d.1), d.2)
  | s => some (.str (String.ofList (s.takeWhile isNameChar)), s.dropWhile isNameChar)

/-- The text begins with no character of a name, so that a name in front of it ends there. -/
def EndsName (s : List Char) : Prop := ∀ c ∈ s.head?, isNameChar c = false

theorem readDigits_append {ds rest : List Char} (hds : ∀ c ∈ ds, c.isDigit = true) :
    readDigits (ds ++ ']' :: rest) = some (ds, rest) := by
  have hbracket : Char.isDigit ']' = false := by decide
  have htake : (ds ++ ']' :: rest).takeWhile Char.isDigit = ds := by
    rw [List.takeWhile_append_of_pos hds, List.takeWhile_cons_of_neg (by simp [hbracket]),
      List.append_nil]
  have hdrop : (ds ++ ']' :: rest).dropWhile Char.isDigit = ']' :: rest := by
    rw [List.dropWhile_append_of_pos hds, List.dropWhile_cons_of_neg (by simp [hbracket])]
  simp only [readDigits, hdrop, htake]

theorem readAccessor_digits {ds rest : List Char} (hne : ds ≠ [])
    (hds : ∀ c ∈ ds, c.isDigit = true) :
    readAccessor ('[' :: ds ++ ']' :: rest) = some (.str (String.ofList ds), rest) := by
  have hread : readDigits (ds ++ ']' :: rest) = some (ds, rest) := readDigits_append hds
  cases ds with
  | nil => exact absurd rfl hne
  | cons d ds =>
    have hd : d.isDigit = true := hds d List.mem_cons_self
    have hquote : d ≠ '"' := by
      rintro rfl
      exact absurd hd (by decide)
    have hminus : d ≠ '-' := by
      rintro rfl
      exact absurd hd (by decide)
    simp only [List.cons_append] at hread ⊢
    rw [readAccessor.eq_def]
    split <;> simp_all

theorem readAccessor_negative (n : Nat) (rest : List Char) :
    readAccessor ('[' :: '-' :: Nat.toDigits 10 n ++ ']' :: rest) = some (.int (-n), rest) := by
  have hds : ∀ c ∈ Nat.toDigits 10 n, c.isDigit = true := fun c hc =>
    Nat.isDigit_of_mem_toDigits (by decide) (by decide) hc
  simp only [List.cons_append, readAccessor, readDigits_append hds, Option.map_some,
    Nat.ofDigitChars_ten_toDigits]

theorem readAccessor_quoted (name rest : List Char) :
    readAccessor ('[' :: Text.Repertoire.unicode.quoteChars name ++ ']' :: rest) =
      some (.str (String.ofList name), rest) := by
  have hread := readQuoted_quoteChars name (']' :: rest)
  simp only [Text.Repertoire.quoteChars, List.cons_append, List.append_assoc, List.nil_append,
    readAccessor, hread]

theorem all_isNameChar_of_isIdentifier {name : List Char} (h : isIdentifier name = true) :
    ∀ c ∈ name, isNameChar c = true := by
  cases name with
  | nil => exact List.forall_mem_nil _
  | cons c rest =>
    simp only [isIdentifier, Bool.and_eq_true, List.all_eq_true] at h
    refine List.forall_mem_cons.mpr ⟨?_, h.2⟩
    rw [isNameChar, h.1, Bool.true_or]

/-- A name by itself is read up to the first character that no name holds. -/
theorem readAccessor_name {name rest : List Char} (h : isIdentifier name = true)
    (hrest : EndsName rest) : readAccessor (name ++ rest) = some (.str (String.ofList name), rest) := by
  have hall := all_isNameChar_of_isIdentifier h
  have htake : (name ++ rest).takeWhile isNameChar = name := by
    rw [List.takeWhile_append_of_pos hall]
    cases rest with
    | nil => simp
    | cons c rest => simp [hrest c rfl]
  have hdrop : (name ++ rest).dropWhile isNameChar = rest := by
    rw [List.dropWhile_append_of_pos hall]
    cases rest with
    | nil => rfl
    | cons c rest => simp [hrest c rfl]
  cases name with
  | nil => exact absurd h Bool.false_ne_true
  | cons c name =>
    have hc : c ≠ '[' := by
      rintro rfl
      exact absurd (hall _ List.mem_cons_self) (by decide)
    rw [List.cons_append] at htake hdrop ⊢
    rw [readAccessor.eq_def]
    split <;> simp_all

theorem readAccessor_accessorChars (name : List Char) {rest : List Char} (hrest : EndsName rest) :
    readAccessor (accessorChars name ++ rest) = some (.str (String.ofList name), rest) := by
  rw [accessorChars]
  split
  · rename_i h
    simp only [isNumeric, Bool.and_eq_true, Bool.not_eq_true', List.isEmpty_eq_false_iff,
      List.all_eq_true] at h
    rw [List.append_assoc]
    exact readAccessor_digits h.1 h.2
  · split
    · rename_i h
      exact readAccessor_name ((Bool.and_eq_true _ _).mp h).1 hrest
    · rw [List.append_assoc]
      exact readAccessor_quoted name rest

/-! ### Accessors of keys -/

theorem toList_toString_nonneg {n : Int} (hn : 0 ≤ n) :
    (toString n).toList = Nat.toDigits 10 n.toNat := by
  rw [Int.toString_eq_repr, Int.repr_eq_if, if_pos hn, Nat.repr_eq_ofList_toDigits,
    String.toList_ofList]

theorem toList_toString_neg {n : Int} (hn : ¬ 0 ≤ n) :
    (toString n).toList = '-' :: Nat.toDigits 10 (-n).toNat := by
  rw [Int.toString_eq_repr, Int.repr_eq_if, if_neg hn, Nat.repr_eq_ofList_toDigits]
  simp only [String.toList_append, String.toList_ofList]
  rfl

/-- The accessor of an integer is read as the integer, if it is negative, and as its digits
otherwise. -/
theorem readAccessor_integer (n : Int) (rest : List Char) :
    readAccessor (("[" ++ toString n ++ "]").toList ++ rest) =
      some (if 0 ≤ n then .str (toString n) else .int n, rest) := by
  have hchars : ("[" ++ toString n ++ "]").toList ++ rest =
      '[' :: (toString n).toList ++ ']' :: rest := by
    simp [String.toList_append]
  rw [hchars]
  by_cases hn : 0 ≤ n
  · have hread : readAccessor ('[' :: Nat.toDigits 10 n.toNat ++ ']' :: rest) = _ :=
      readAccessor_digits Nat.toDigits_ne_nil fun c hc =>
        Nat.isDigit_of_mem_toDigits (by decide) (by decide) hc
    rw [toList_toString_nonneg hn, hread, if_pos hn, ← toList_toString_nonneg hn,
      String.ofList_toList]
  · have hneg : -((-n).toNat : Int) = n := by omega
    rw [toList_toString_neg hn, readAccessor_negative, if_neg hn, hneg]

theorem integer?_of_string? {key : Value} {s : String} (hs : key.string? = some s) :
    key.integer? = none := by
  cases key with
  | str s => rfl
  | boxed b =>
    cases b with
    | str s => rfl
    | _ => cases hs
  | _ => cases hs

theorem text_of_string? {h : Heap} {key : Value} {s : String} (hs : key.string? = some s) :
    h.text key = .ok s := by
  cases key with
  | str s =>
    cases hs
    rfl
  | boxed b =>
    cases b with
    | str s =>
      cases hs
      rfl
    | _ => cases hs
  | _ => cases hs

theorem keyAccessor_of_string? (h : Heap) {key : Value} {s : String} (hs : key.string? = some s) :
    keyAccessor h key = .ok (accessor s) := by
  simp only [keyAccessor, integer?_of_string? hs, text_of_string? hs]
  rfl

theorem keyAccessor_of_integer? (h : Heap) {key : Value} {n : Int} (hn : key.integer? = some n)
    (hsize : ¬ IsOversized n) : keyAccessor h key = .ok ("[" ++ toString n ++ "]") := by
  simp only [keyAccessor, hn, integerText_of_lt (Nat.lt_of_not_le hsize)]
  rfl

theorem toldKey_of_string? {key : Value} {s : String} (hs : key.string? = some s) :
    toldKey key = .str s := by
  simp only [toldKey, integer?_of_string? hs, hs]

theorem toldKey_of_integer? {key : Value} {n : Int} (hn : key.integer? = some n) :
    toldKey key = if 0 ≤ n then .str (toString n) else .int n := by
  simp only [toldKey, hn]

/-- A key has an accessor, which is read as the key that it tells. -/
theorem exists_keyAccessor (h : Heap) {key : Value} (hkey : IsSpellable key) :
    ∃ a, keyAccessor h key = .ok a ∧ a ≠ "" ∧
      ∀ rest, EndsName rest → readAccessor (a.toList ++ rest) = some (toldKey key, rest) := by
  rcases hkey with ⟨s, hs⟩ | ⟨n, hn, hsize⟩
  · refine ⟨accessor s, keyAccessor_of_string? h hs, accessor_ne_empty s, fun rest hrest => ?_⟩
    rw [accessor, String.toList_ofList, readAccessor_accessorChars _ hrest, String.ofList_toList,
      toldKey_of_string? hs]
  · refine ⟨"[" ++ toString n ++ "]", keyAccessor_of_integer? h hn hsize, by simp, fun rest _ => ?_⟩
    rw [readAccessor_integer, toldKey_of_integer? hn]

/-! ### Chains -/

/-- What follows an accessor, without the point that may stand in front of a name. -/
def afterPoint (rest : List Char) : List Char :=
  if rest.head? = some '.' then rest.tail else rest

def readKeys (path : List Char) : Option (List Value) :=
  if path = [] then some []
  else match readAccessor path with
    | none => none
    | some (key, rest) =>
      if (afterPoint rest).length < path.length then (readKeys (afterPoint rest)).map (key :: ·)
      else none
termination_by path.length

def read? (path : String) : Option (List Value) := readKeys path.toList

theorem read?_empty : read? "" = some [] := by
  rw [read?, readKeys]
  rfl

theorem length_afterPoint_le (rest : List Char) : (afterPoint rest).length ≤ rest.length := by
  rw [afterPoint]
  split
  · rw [List.length_tail]
    omega
  · exact Nat.le_refl _

/-- What follows an accessor in a path ends its name, and is the rest of the path but for a point. -/
theorem exists_toList_concat {a : String} (ha : a ≠ "") (tail : String) :
    ∃ rest, (concat a tail).toList = a.toList ++ rest ∧ EndsName rest ∧
      afterPoint rest = tail.toList := by
  by_cases ht : tail = ""
  · subst ht
    refine ⟨[], ?_, ?_, rfl⟩
    · rw [concat_empty_right, List.append_nil]
    · simp [EndsName]
  by_cases hb : tail.toList.head? = some '['
  · refine ⟨tail.toList, ?_, ?_, ?_⟩
    · rw [concat, if_neg ha, if_neg ht, if_pos hb, String.toList_append]
    · intro c hc
      rw [hb] at hc
      cases hc
      rfl
    · rw [afterPoint, hb, if_neg (by decide)]
  · refine ⟨'.' :: tail.toList, ?_, ?_, rfl⟩
    · rw [concat, if_neg ha, if_neg ht, if_neg hb, String.toList_append, String.toList_append,
        List.append_assoc]
      rfl
    · intro c hc
      cases hc
      rfl

theorem read?_concat {a : String} {key : Value} (ha : a ≠ "")
    (hread : ∀ rest, EndsName rest → readAccessor (a.toList ++ rest) = some (key, rest))
    (tail : String) : read? (concat a tail) = (read? tail).map (key :: ·) := by
  obtain ⟨rest, hrest, hends, htail⟩ := exists_toList_concat ha tail
  have hne : a.toList ≠ [] := fun h => ha (String.toList_eq_nil_iff.mp h)
  -- the reader goes on only with a text that got shorter
  have hlength : (afterPoint rest).length < (a.toList ++ rest).length := by
    have hle := length_afterPoint_le rest
    have hpos := List.length_pos_iff.mpr hne
    rw [List.length_append]
    omega
  rw [htail] at hlength
  rw [read?, hrest, readKeys, if_neg (by simp [hne]), hread rest hends]
  simp only [htail, hlength, if_true]
  rfl

/-- Keys that can be written make a path, from which they are read as it tells them. -/
theorem exists_path (h : Heap) {keys : List Value} (hkeys : ∀ key ∈ keys, IsSpellable key) :
    ∃ path, keys.foldlM (join h) "" = .ok path ∧ read? path = some (keys.map toldKey) := by
  induction keys with
  | nil => exact ⟨"", rfl, read?_empty⟩
  | cons key keys ih =>
    obtain ⟨hkey, hkeys⟩ := List.forall_mem_cons.mp hkeys
    obtain ⟨tail, htail, hread⟩ := ih hkeys
    obtain ⟨a, ha, hne, haccessor⟩ := exists_keyAccessor h hkey
    refine ⟨concat a tail, foldlM_join_cons ha htail, ?_⟩
    rw [read?_concat hne haccessor, hread]
    rfl

/-! ### Told keys -/

theorem accessor_toString {n : Int} (hn : 0 ≤ n) :
    accessor (toString n) = "[" ++ toString n ++ "]" := by
  have hdigits := toList_toString_nonneg hn
  have hnumeric : isNumeric (toString n).toList = true := by
    simp only [isNumeric, hdigits, Bool.and_eq_true, Bool.not_eq_true', List.isEmpty_eq_false_iff,
      List.all_eq_true]
    exact ⟨Nat.toDigits_ne_nil, fun c hc => Nat.isDigit_of_mem_toDigits (by decide) (by decide) hc⟩
  apply String.toList_injective
  rw [accessor, accessorChars, if_pos hnumeric, String.toList_ofList]
  simp [String.toList_append]

/-- A key and the key that a path tells for it have one accessor. -/
theorem keyAccessor_toldKey (h : Heap) {key : Value} (hkey : IsSpellable key) :
    keyAccessor h (toldKey key) = keyAccessor h key := by
  rcases hkey with ⟨s, hs⟩ | ⟨n, hn, hsize⟩
  · rw [toldKey_of_string? hs, keyAccessor_of_string? h hs, keyAccessor_str]
  · rw [toldKey_of_integer? hn, keyAccessor_of_integer? h hn hsize]
    split
    · rename_i hnonneg
      rw [keyAccessor_str, accessor_toString hnonneg]
    · exact keyAccessor_of_integer? h rfl hsize

theorem foldlM_join_map_toldKey (h : Heap) {keys : List Value}
    (hkeys : ∀ key ∈ keys, IsSpellable key) (path : String) :
    (keys.map toldKey).foldlM (join h) path = keys.foldlM (join h) path := by
  induction keys generalizing path with
  | nil => rfl
  | cons key keys ih =>
    obtain ⟨hkey, hkeys⟩ := List.forall_mem_cons.mp hkeys
    have hjoin : join h path (toldKey key) = join h path key := by
      rw [join, join, keyAccessor_toldKey h hkey]
    simp only [List.map_cons, List.foldlM_cons, hjoin, ih hkeys]

/-- Two lists of keys that can be written make the same path exactly if the path tells them as the
same keys. The reader gets these back from every path that such keys make. -/
theorem paths_tell_keys (h : Heap) (keys keys' : List Value)
    (hkeys : ∀ key ∈ keys, IsSpellable key) (hkeys' : ∀ key ∈ keys', IsSpellable key) :
    ∃ path path', keys.foldlM (join h) "" = .ok path ∧ keys'.foldlM (join h) "" = .ok path' ∧
      (path = path' ↔ keys.map toldKey = keys'.map toldKey) ∧
      read? path = some (keys.map toldKey) := by
  obtain ⟨path, hpath, hread⟩ := exists_path h hkeys
  obtain ⟨path', hpath', hread'⟩ := exists_path h hkeys'
  refine ⟨path, path', hpath, hpath', ⟨?_, ?_⟩, hread⟩
  · rintro rfl
    exact Option.some.inj (hread.symm.trans hread')
  · intro htold
    have hfold := foldlM_join_map_toldKey h hkeys ""
    rw [htold, foldlM_join_map_toldKey h hkeys', hpath, hpath'] at hfold
    exact (Except.ok.inj hfold).symm

/-- Keys with points, quotes, brackets, digits and a reserved word in them. -/
def markedKeys (index : Value) : List Value :=
  [.str "a", index, .str "b.c", .str "\"]\\[", .int (-2), .str "return", .str "", .str "d"]

theorem isSpellable_of_mem_markedKeys {index : Value} (hindex : IsSpellable index) :
    ∀ key ∈ markedKeys index, IsSpellable key := by
  have hnegative : IsSpellable (.int (-2)) := .inr ⟨-2, rfl, by decide +kernel⟩
  simp only [markedKeys, List.forall_mem_cons]
  exact ⟨.inl ⟨_, rfl⟩, hindex, .inl ⟨_, rfl⟩, .inl ⟨_, rfl⟩, hnegative, .inl ⟨_, rfl⟩,
    .inl ⟨_, rfl⟩, .inl ⟨_, rfl⟩, List.forall_mem_nil _⟩

theorem markedKeys_told :
    ∃ path path', (markedKeys (.int 7)).foldlM (join .empty) "" = .ok path ∧
      (markedKeys (.str "7")).foldlM (join .empty) "" = .ok path' ∧
      (path = path' ↔ (markedKeys (.int 7)).map toldKey = (markedKeys (.str "7")).map toldKey) ∧
      read? path = some ((markedKeys (.int 7)).map toldKey) :=
  have hindex : IsSpellable (.int 7) := .inr ⟨7, rfl, by decide +kernel⟩
  paths_tell_keys .empty (markedKeys (.int 7)) (markedKeys (.str "7"))
    (isSpellable_of_mem_markedKeys hindex) (isSpellable_of_mem_markedKeys (.inl ⟨_, rfl⟩))

end Conformance.Path
