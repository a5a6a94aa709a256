import Mathlib.Data.List.Basic
import Mathlib.Data.List.Infix
import Mathlib.Logic.Function.Iterate

/-! Texts as bytes, and the header maps of HTTP. -/

namespace Balance

section Bytes

/-- The bytes of a text. -/
def bytesOf (text : String) : List UInt8 := text.toUTF8.data.toList

/-- A text can be told from its bytes. -/
theorem bytesOf_inj {first second : String} (same : bytesOf first = bytesOf second) :
    first = second :=
  String.toByteArray_inj.mp (ByteArray.ext (Array.toList_inj.mp same))

/-- A letter in upper case. -/
def isUpper (byte : UInt8) : Bool := 65 ≤ byte ∧ byte ≤ 90

/-- A letter in lower case. -/
def isLower (byte : UInt8) : Bool := 97 ≤ byte ∧ byte ≤ 122

/-- A letter without its case, and any other byte as it is. -/
def lower (byte : UInt8) : UInt8 := if isUpper byte then byte + 32 else byte

/-- The byte between the words of a header name. -/
def hyphen : UInt8 := 45

/-- The byte between the tokens of a header value. -/
def comma : UInt8 := 44

/-- Whether a byte may stand in the name of a header. -/
def validHeaderFieldByte (byte : UInt8) : Bool :=
  isUpper byte ∨ isLower byte ∨ (48 ≤ byte ∧ byte ≤ 57) ∨
    byte ∈ [33, 35, 36, 37, 38, 39, 42, 43, 45, 46, 94, 95, 96, 124, 126]

/-- A byte of a header name, as it stands at the start of a word or inside one. -/
def recase (upper : Bool) (byte : UInt8) : UInt8 :=
  if upper ∧ isLower byte then byte - 32
  else if ¬ upper ∧ isUpper byte then byte + 32
  else byte

/-- A name with a capital at the start of each word, given whether a word starts here. -/
def capitalize : Bool → List UInt8 → List UInt8
  | _, [] => []
  | upper, byte :: rest =>
    recase upper byte :: capitalize (recase upper byte = hyphen) rest

/-- The canonical form of a header name, which leaves a name that is not valid as it is. -/
def canonicalMIMEHeaderKey (key : List UInt8) : List UInt8 :=
  if key.all validHeaderFieldByte then capitalize true key else key

/-- The letters in upper case, as numbers. -/
theorem isUpper_iff {byte : UInt8} : isUpper byte ↔ 65 ≤ byte.toNat ∧ byte.toNat ≤ 90 := by
  rw [isUpper, decide_eq_true_iff]
  rfl

/-- The letters in lower case, as numbers. -/
theorem isLower_iff {byte : UInt8} : isLower byte ↔ 97 ≤ byte.toNat ∧ byte.toNat ≤ 122 := by
  rw [isLower, decide_eq_true_iff]
  rfl

/-- A letter in lower case has its capital 32 bytes before. -/
theorem isUpper_sub {byte : UInt8} (small : isLower byte) : isUpper (byte - 32) := by
  rw [isLower_iff] at small
  simp only [isUpper_iff, UInt8.toNat_sub, UInt8.reduceToNat]
  omega

/-- A capital has its letter in lower case 32 bytes behind. -/
theorem isLower_add {byte : UInt8} (capital : isUpper byte) : isLower (byte + 32) := by
  rw [isUpper_iff] at capital
  simp only [isLower_iff, UInt8.toNat_add, UInt8.reduceToNat]
  omega

/-- No letter is in both cases. -/
theorem not_isLower_of_isUpper {byte : UInt8} (capital : isUpper byte) : ¬ isLower byte := by
  rw [isUpper_iff] at capital
  rw [isLower_iff]
  omega

/-- A byte that is written for its place stays as it is. -/
theorem recase_recase (upper : Bool) (byte : UInt8) :
    recase upper (recase upper byte) = recase upper byte := by
  -- A letter that was changed is in the case of its place.
  have settled : ¬ (upper ∧ isLower (recase upper byte)) ∧
      ¬ (¬ upper ∧ isUpper (recase upper byte)) := by
    rw [recase]
    split_ifs with start inside
    · exact ⟨fun again => not_isLower_of_isUpper (isUpper_sub start.2) again.2,
        fun again => again.1 start.1⟩
    · exact ⟨fun again => inside.1 again.1,
        fun again => not_isLower_of_isUpper again.2 (isLower_add inside.2)⟩
    · exact ⟨start, inside⟩
  rw [recase, if_neg settled.1, if_neg settled.2]

/-- A byte that may stand in the name of a header may do so in either case. -/
theorem valid_recase (upper : Bool) {byte : UInt8} (valid : validHeaderFieldByte byte) :
    validHeaderFieldByte (recase upper byte) := by
  rw [recase]
  split_ifs with start inside
  · simp [validHeaderFieldByte, isUpper_sub start.2]
  · simp [validHeaderFieldByte, isLower_add inside.2]
  · exact valid

/-- A name with a capital at the start of each word stays as it is. -/
theorem capitalize_capitalize (upper : Bool) (key : List UInt8) :
    capitalize upper (capitalize upper key) = capitalize upper key := by
  induction key generalizing upper with
  | nil => rfl
  | cons byte rest ih => rw [capitalize, capitalize, recase_recase, ih]

/-- A valid name is valid in its canonical form. -/
theorem all_valid_capitalize (upper : Bool) {key : List UInt8}
    (valid : key.all validHeaderFieldByte) :
    (capitalize upper key).all validHeaderFieldByte := by
  induction key generalizing upper with
  | nil => rfl
  | cons byte rest ih =>
    rw [List.all_cons, Bool.and_eq_true] at valid
    rw [capitalize, List.all_cons, valid_recase upper valid.1, ih _ valid.2, Bool.and_self]

/-- The canonical form of a name is canonical. -/
theorem canonicalMIMEHeaderKey_canonical (key : List UInt8) :
    canonicalMIMEHeaderKey (canonicalMIMEHeaderKey key) = canonicalMIMEHeaderKey key := by
  -- A valid name stays valid, and any other is left as it is.
  by_cases valid : key.all validHeaderFieldByte
  · have canonical : canonicalMIMEHeaderKey key = capitalize true key := if_pos valid
    rw [canonical, canonicalMIMEHeaderKey, if_pos (all_valid_capitalize true valid),
      capitalize_capitalize]
  · have same : canonicalMIMEHeaderKey key = key := if_neg valid
    rw [same, same]

/-- The characters that count as white space, in UTF-8. -/
def spaces : List (List UInt8) :=
  [[9], [10], [11], [12], [13], [32], [0xC2, 0x85], [0xC2, 0xA0], [0xE1, 0x9A, 0x80],
    [0xE2, 0x80, 0x80], [0xE2, 0x80, 0x81], [0xE2, 0x80, 0x82], [0xE2, 0x80, 0x83],
    [0xE2, 0x80, 0x84], [0xE2, 0x80, 0x85], [0xE2, 0x80, 0x86], [0xE2, 0x80, 0x87],
    [0xE2, 0x80, 0x88], [0xE2, 0x80, 0x89], [0xE2, 0x80, 0x8A], [0xE2, 0x80, 0xA8],
    [0xE2, 0x80, 0xA9], [0xE2, 0x80, 0xAF], [0xE2, 0x81, 0x9F], [0xE3, 0x80, 0x80]]

/-- A text without the first of the given words that it begins with. -/
def dropWord (words : List (List UInt8)) (text : List UInt8) : List UInt8 :=
  ((words.find? fun word => word.isPrefixOf text).map fun word => text.drop word.length).getD text

/-- A text without the white space around it. -/
def trimSpace (text : List UInt8) : List UInt8 :=
  -- A text has at most as many characters as bytes, so that many rounds take away all of them.
  let front := (dropWord spaces)^[text.length] text
  ((dropWord (spaces.map List.reverse))^[front.length] front.reverse).reverse

end Bytes

/-- A header map, whose names are canonical. -/
structure Header where
  values : List UInt8 → Option (List (List UInt8))
  canonical : ∀ name, (values name).isSome → canonicalMIMEHeaderKey name = name

namespace Header

/-- No headers. -/
def empty : Header := ⟨fun _ => none, by simp⟩

/-- The first value of a header, or the empty text. -/
def get (header : Header) (key : List UInt8) : List UInt8 :=
  ((header.values (canonicalMIMEHeaderKey key)).bind List.head?).getD []

/-- The map without a header. -/
def del (header : Header) (key : List UInt8) : Header where
  values := Function.update header.values (canonicalMIMEHeaderKey key) none
  canonical := by
    intro name present
    by_cases deleted : name = canonicalMIMEHeaderKey key
    · simp [deleted] at present
    · rw [Function.update_of_ne deleted] at present
      exact header.canonical name present

/-- The map with one header replaced, under its canonical name. -/
def put (header : Header) (key : List UInt8) (values : List (List UInt8)) : Header where
  values := Function.update header.values (canonicalMIMEHeaderKey key) (some values)
  canonical := by
    intro name present
    by_cases written : name = canonicalMIMEHeaderKey key
    · rw [written, canonicalMIMEHeaderKey_canonical]
    · rw [Function.update_of_ne written] at present
      exact header.canonical name present

/-- Adds one more value to a header. -/
def add (header : Header) (key value : List UInt8) : Header :=
  header.put key ((header.values (canonicalMIMEHeaderKey key)).getD [] ++ [value])

/-- Replaces the values of a header by one. -/
def set (header : Header) (key value : List UInt8) : Header := header.put key [value]

/-- A header that is set has the value that it is set to, and the others stay. -/
theorem get_set (header : Header) (key value other : List UInt8) :
    (header.set key value).get other =
      if canonicalMIMEHeaderKey other = canonicalMIMEHeaderKey key then value
      else header.get other := by
  simp only [get, set, put, Function.update_apply]
  split <;> rfl

end Header

end Balance
