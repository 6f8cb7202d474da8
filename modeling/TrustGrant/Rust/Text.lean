import Mathlib.Data.List.DropRight
import Mathlib.Data.List.Infix
import Mathlib.Data.List.TakeWhile
import Mathlib.Data.String.Basic

/-!
# Text primitives of the Rust standard library

Strings are sequences of Unicode scalar values; their length is counted in UTF-8
bytes, as `str::len` counts it. Character classes are the Unicode properties the
library documents: `White_Space` for `is_whitespace` and the general category `Cc`
for `is_control`.

`str::to_lowercase` consults the full Unicode case tables. It is a parameter here,
together with the facts about it that its documentation promises. Every result that
mentions it holds for any function with these facts.
-/

namespace Rust.Text

/-- `char::is_whitespace`: the scalars with the property `White_Space`. -/
def isWhitespace (c : Char) : Bool :=
  (0x09 ≤ c.toNat && c.toNat ≤ 0x0D) || c.toNat == 0x20 || c.toNat == 0x85 ||
    c.toNat == 0xA0 || c.toNat == 0x1680 || (0x2000 ≤ c.toNat && c.toNat ≤ 0x200A) ||
    c.toNat == 0x2028 || c.toNat == 0x2029 || c.toNat == 0x202F || c.toNat == 0x205F ||
    c.toNat == 0x3000

/-- `char::is_control`: the scalars of the general category `Cc`. -/
def isControl (c : Char) : Bool :=
  c.toNat ≤ 0x1F || (0x7F ≤ c.toNat && c.toNat ≤ 0x9F)

/-- Neither white space nor a control character. -/
def isTokenChar (c : Char) : Bool := !(isControl c || isWhitespace c)

/-- `str::len`, in bytes. -/
abbrev len (text : String) : Nat := text.utf8ByteSize

/-- `str::trim`: drop white space at both ends. -/
def trim (text : String) : String :=
  String.ofList ((text.toList.dropWhile isWhitespace).rdropWhile isWhitespace)

/-- `str::is_empty`. -/
def isEmpty (text : String) : Bool := text.toList.isEmpty

/-- `str::starts_with` for a string pattern. -/
def startsWith (text pattern : String) : Bool := pattern.toList.isPrefixOf text.toList

/-- `str::ends_with` for a string pattern. -/
def endsWith (text pattern : String) : Bool := pattern.toList.isSuffixOf text.toList

/-- `str::contains` for a string pattern. -/
def contains (text pattern : String) : Bool := decide (pattern.toList <:+: text.toList)

/-- The part of the text before the first occurrence of a character, or all of it. -/
def before (text : String) (c : Char) : String := String.ofList (text.toList.takeWhile (· ≠ c))

/-- `str::find` for a character pattern: the byte offset of its first occurrence. -/
def find (text : String) (c : Char) : Option Nat :=
  if c ∈ text.toList then some (len (before text c)) else none

/-- `str::split_once` at a character: what stands before and after its first
occurrence. -/
def splitOnce (text : String) (c : Char) : Option (String × String) :=
  match text.toList.dropWhile (· ≠ c) with
  | [] => none
  | _ :: rest => some (before text c, String.ofList rest)

/-- `str::strip_prefix` and `str::strip_suffix` for the two ends of a bracketing. -/
def stripBoth (text : String) (first last : Char) : Option String :=
  match text.toList with
  | [] => none
  | c :: rest =>
    if c = first ∧ rest.getLast? = some last then some (String.ofList rest.dropLast) else none

/-- `str::to_ascii_lowercase`. -/
def toAsciiLowercase (text : String) : String := String.ofList (text.toList.map Char.toLower)

/-- Only white space. -/
def IsBlank (chars : List Char) : Prop := ∀ c ∈ chars, isWhitespace c = true

/-- Every scalar of the text is below 128. -/
def IsAscii (text : String) : Prop := ∀ c ∈ text.toList, c.toNat < 128

/-- Every scalar of the text may stand in a token. -/
def IsToken (text : String) : Prop := ∀ c ∈ text.toList, isTokenChar c = true

-- Named, because an instance that runs over all characters applies here as well.

/-- Whether a text is ASCII is decided scalar by scalar. -/
instance (text : String) : Decidable (IsAscii text) :=
  List.decidableBAll (fun c : Char => c.toNat < 128) text.toList

/-- Whether a text is a token is decided scalar by scalar. -/
instance (text : String) : Decidable (IsToken text) :=
  List.decidableBAll (fun c => isTokenChar c = true) text.toList

/-- `str::to_lowercase` and what the Unicode case tables guarantee about it: ASCII
text is mapped letter by letter, a second pass changes nothing, and the mapping
introduces neither white space nor control characters. -/
structure CaseMapping where
  toLowercase : String → String
  ascii : ∀ text, IsAscii text → toLowercase text = toAsciiLowercase text
  idempotent : ∀ text, toLowercase (toLowercase text) = toLowercase text
  keepsTokens : ∀ text, IsToken text → IsToken (toLowercase text)

/-- Text without white space has nothing to trim. The first and the last scalar stay, and so does
everything between them. -/
theorem trim_token (text : String) (token : IsToken text) : trim text = text := by
  have visible : ∀ c ∈ text.toList, isWhitespace c = false := by
    intro c member
    have allowed := token c member
    simp only [isTokenChar, Bool.not_eq_true', Bool.or_eq_false_iff] at allowed
    exact allowed.2
  have front : text.toList.dropWhile isWhitespace = text.toList := by
    cases chars : text.toList with
    | nil => rfl
    | cons first rest =>
      have shown := visible first (by simp [chars])
      simp [shown]
  have back : text.toList.rdropWhile isWhitespace = text.toList := by
    rw [List.rdropWhile_eq_self_iff]
    intro nonempty blank
    have shown := visible _ (List.getLast_mem nonempty)
    simp [blank] at shown
  rw [trim, front, back, String.ofList_toList]

/-- Trimming twice trims once. What is left begins and ends with a visible scalar, or is
empty. -/
theorem trim_trim (text : String) : trim (trim text) = trim text := by
  unfold trim
  rw [String.toList_ofList]
  have front : ((text.toList.dropWhile isWhitespace).rdropWhile isWhitespace).dropWhile
      isWhitespace = (text.toList.dropWhile isWhitespace).rdropWhile isWhitespace := by
    generalize kept : text.toList.dropWhile isWhitespace = tail
    obtain ⟨removed, split⟩ := List.rdropWhile_prefix isWhitespace (l := tail)
    cases trimmed : tail.rdropWhile isWhitespace with
    | nil => rfl
    | cons first rest =>
      have shown : isWhitespace first = false := by
        rw [trimmed, ← kept] at split
        have headed := List.head?_dropWhile_not isWhitespace text.toList
        rw [← split] at headed
        simpa using headed
      rw [List.dropWhile_cons_of_neg (by simp [shown])]
  rw [front, List.rdropWhile_idempotent]

/-- What trimming leaves stands between white space. Either side may be empty. -/
theorem trim_split (text : String) :
    ∃ front back, text.toList = front ++ ((trim text).toList ++ back) ∧
      IsBlank front ∧ IsBlank back := by
  refine ⟨text.toList.takeWhile isWhitespace,
    (text.toList.dropWhile isWhitespace).rtakeWhile isWhitespace, ?_, ?_, ?_⟩
  · rw [trim, String.toList_ofList, List.rdropWhile_append_rtakeWhile,
      List.takeWhile_append_dropWhile]
  · exact fun c member => List.mem_takeWhile_imp member
  · exact fun c member => List.mem_rtakeWhile_imp member

/-- White space around a text is trimmed away. Dropping from the front and from the back is done
one after the other. -/
theorem trim_around (front back : List Char) (text : String) (frontBlank : IsBlank front)
    (backBlank : IsBlank back) :
    trim (String.ofList (front ++ (text.toList ++ back))) = trim text := by
  have ending : ∀ middle : List Char,
      (middle ++ back).rdropWhile isWhitespace = middle.rdropWhile isWhitespace := by
    intro middle
    rw [List.rdropWhile, List.rdropWhile, List.reverse_append,
      List.dropWhile_append_of_pos (fun c member => backBlank c (List.mem_reverse.mp member))]
  rw [trim, trim, String.toList_ofList, List.dropWhile_append_of_pos frontBlank,
    List.dropWhile_append]
  split
  · rename_i nothing
    rw [List.isEmpty_iff.mp nothing, List.dropWhile_eq_nil_iff.mpr backBlank]
  · rw [ending]

/-- A trimmed text does not begin with white space. Otherwise trimming it again would
shorten it. -/
theorem trim_begins (text : String) (first : Char) (rest : List Char)
    (begins : (trim text).toList = first :: rest) : isWhitespace first = false := by
  have again := congrArg String.toList (trim_trim text)
  rw [trim, String.toList_ofList, begins] at again
  cases blank : isWhitespace first with
  | false => rfl
  | true =>
    rw [List.dropWhile_cons_of_pos blank] at again
    have shorter :=
      (List.rdropWhile_prefix isWhitespace (l := rest.dropWhile isWhitespace)).length_le
    have dropped := (List.dropWhile_sublist isWhitespace (l := rest)).length_le
    rw [again, List.length_cons] at shorter
    omega

/-- The length of a text is the sum of the lengths of its scalars. -/
theorem len_of_list_cons (first : Char) (rest : List Char) :
    len (String.ofList (first :: rest)) = first.utf8Size + len (String.ofList rest) := by
  have split : String.ofList (first :: rest) = String.ofList [first] ++ String.ofList rest := by
    rw [← String.ofList_append, List.singleton_append]
  rw [split, len, String.utf8ByteSize_append, ← String.singleton_eq_ofList,
    String.utf8ByteSize_singleton]

/-- A scalar takes at most four bytes. -/
theorem len_of_list_le (chars : List Char) : len (String.ofList chars) ≤ 4 * chars.length := by
  induction chars with
  | nil => exact le_of_eq rfl
  | cons first rest inductionHypothesis =>
    have width := first.utf8Size_le_four
    rw [len_of_list_cons, List.length_cons]
    omega

/-- A text is no shorter than what remains when scalars are left out. The length is counted in
bytes, so the induction is over scalars. -/
theorem len_le_of_sublist (left right : String) (within : left.toList.Sublist right.toList) :
    len left ≤ len right := by
  have lists : ∀ shorter longer : List Char, shorter.Sublist longer →
      len (String.ofList shorter) ≤ len (String.ofList longer) := by
    intro shorter longer sublist
    induction sublist with
    | slnil => exact le_rfl
    | cons first _ inductionHypothesis =>
      rw [len_of_list_cons]
      omega
    | cons_cons first _ inductionHypothesis =>
      rw [len_of_list_cons, len_of_list_cons]
      omega
  have listed := lists _ _ within
  rwa [String.ofList_toList, String.ofList_toList] at listed

/-- A text that begins and ends visibly has nothing to trim. -/
theorem trim_between (first last : Char) (middle : List Char)
    (firstVisible : isWhitespace first = false) (lastVisible : isWhitespace last = false) :
    trim (String.ofList (first :: middle ++ [last])) =
      String.ofList (first :: middle ++ [last]) := by
  rw [trim, String.toList_ofList, List.cons_append,
    List.dropWhile_cons_of_neg (by simp [firstVisible]),
    ← List.cons_append, List.rdropWhile_concat_neg _ _ _ (by simp [lastVisible])]

/-- What stands inside a bracketing. The two brackets are different places, so a single bracket
is not enough. -/
theorem strip_both_some_iff (text inner : String) (first last : Char) :
    stripBoth text first last = some inner ↔
      text.toList = first :: inner.toList ++ [last] := by
  unfold stripBoth
  cases text.toList with
  | nil => simp
  | cons c rest =>
    simp only [List.cons_append, List.cons.injEq]
    constructor
    · intro stripped
      split at stripped
      · rename_i ends
        cases stripped
        refine ⟨ends.1, ?_⟩
        rw [String.toList_ofList]
        exact (List.dropLast_append_getLast? last ends.2).symm
      · cases stripped
    · rintro ⟨rfl, rfl⟩
      simp

/-- Texts of one length at the beginning of one sequence are the same text. One of them is a
beginning of the other, and what is over has no length. -/
theorem text_of_length (left right : String) (leftRest rightRest : List Char)
    (sameLength : len left = len right)
    (same : left.toList ++ leftRest = right.toList ++ rightRest) :
    left = right ∧ leftRest = rightRest := by
  have longer : ∀ (first second : String) (between : List Char), len first = len second →
      second.toList = first.toList ++ between → between = [] := by
    intro first second between equalLength extended
    have joined : second = first ++ String.ofList between := by
      rw [← String.toList_inj, String.toList_append, String.toList_ofList, extended]
    rw [joined, len, len, String.utf8ByteSize_append] at equalLength
    have nothing : String.ofList between = "" := by
      rw [← String.utf8ByteSize_eq_zero_iff]
      omega
    rw [← String.toList_ofList (l := between), nothing]
    rfl
  rcases List.append_eq_append_iff.mp same with
    ⟨between, extended, rest⟩ | ⟨between, extended, rest⟩
  · have nothing := longer left right between sameLength extended
    subst nothing
    rw [List.append_nil] at extended
    exact ⟨String.toList_inj.mp extended.symm, rest⟩
  · have nothing := longer right left between sameLength.symm extended
    subst nothing
    rw [List.append_nil] at extended
    exact ⟨String.toList_inj.mp extended, rest.symm⟩

/-- Lower-casing moves exactly the ASCII capitals, by 32. The classes of tokens are ranges of
codes, which this reduces to arithmetic. -/
theorem to_lower_code (c : Char) :
    c.toLower.toNat = if 65 ≤ c.toNat ∧ c.toNat ≤ 90 then c.toNat + 32 else c.toNat := by
  unfold Char.toLower
  split
  · rename_i capital
    rw [ge_iff_le, UInt32.le_iff_toNat_le, UInt32.le_iff_toNat_le] at capital
    have low : 65 ≤ c.toNat := capital.1
    have high : c.toNat ≤ 90 := capital.2
    rw [if_pos ⟨low, high⟩]
    change (c.val + ('a'.val - 'A'.val)).toNat = c.val.toNat + 32
    rw [UInt32.toNat_add, show ('a'.val - 'A'.val).toNat = 32 from rfl]
    have bounded : c.val.toNat ≤ 90 := high
    omega
  · rename_i notCapital
    rw [if_neg]
    rintro ⟨low, high⟩
    exact notCapital ⟨UInt32.le_iff_toNat_le.mpr low, UInt32.le_iff_toNat_le.mpr high⟩

/-- Lower-casing a letter twice is lower-casing it once. Only the capitals change, and what they
become is no capital. -/
theorem to_lower_idempotent (c : Char) : c.toLower.toLower = c.toLower := by
  apply Char.toNat_inj.mp
  rw [to_lower_code c.toLower]
  have code := to_lower_code c
  by_cases capital : 65 ≤ c.toNat ∧ c.toNat ≤ 90
  · rw [if_pos capital] at code
    rw [if_neg (by omega)]
  · rw [if_neg capital] at code
    rw [code, if_neg capital]

/-- A token character stays one: a capital letter becomes a small letter, and anything else is
kept. -/
theorem to_lower_token_char (c : Char) (token : isTokenChar c = true) :
    isTokenChar c.toLower = true := by
  have code := to_lower_code c
  by_cases capital : 65 ≤ c.toNat ∧ c.toNat ≤ 90
  · rw [if_pos capital] at code
    simp only [isTokenChar, isControl, isWhitespace, Bool.not_eq_true', Bool.or_eq_false_iff,
      Bool.and_eq_false_iff, decide_eq_false_iff_not, beq_eq_false_iff_ne]
    omega
  · rw [if_neg capital] at code
    rw [Char.toNat_inj.mp code]
    exact token

/-- ASCII lower-casing of each letter is a case mapping. Rust's own mapping agrees
with it on ASCII text, which is where closed examples use it. -/
def asciiCaseMapping : CaseMapping where
  toLowercase := toAsciiLowercase
  ascii _ _ := rfl
  idempotent text := by
    simp only [toAsciiLowercase, String.toList_ofList, List.map_map]
    congr 2
    funext c
    exact to_lower_idempotent c
  keepsTokens text token := by
    intro c member
    rw [toAsciiLowercase, String.toList_ofList, List.mem_map] at member
    obtain ⟨original, present, rfl⟩ := member
    exact to_lower_token_char original (token original present)

end Rust.Text
