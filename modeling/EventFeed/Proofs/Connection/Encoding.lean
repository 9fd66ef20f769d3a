import EventFeed.Connection.Address
import EventFeed.Text.Blank
import Mathlib

/-!
# Tokens in addresses

A token stands at the end of an address, percent-encoded. `Encoded` says which texts an encoding
can be, and `decoded?` reads the token from it. An address is cut at its first `#`, what stands
before that at its first `?`, and the query after that at each `&`; none of these is in an
encoding, so it is one parameter whatever the token is. The main result is `withToken_carries`.
-/

namespace EventFeed.Connection.Address

/-! ## Reading an encoding -/

def hexDigits : List Char := "0123456789ABCDEF".toList

/-- The marks that stand for themselves. -/
def marks : List Char := ['-', '_', '.', '!', '~', '*', '\x27', '(', ')']

/-- The value of a hexadecimal digit, in letters of either case. -/
def hexValue? (c : Char) : Option Nat := hexDigits.idxOf? c.toUpper

/-- Two hexadecimal digits after a percent sign stand for a byte, and any other character for its
own bytes. -/
def percentDecode : List Char → List UInt8
  | [] => []
  | '%' :: a :: b :: cs =>
    match hexValue? a, hexValue? b with
    | some high, some low => UInt8.ofNat (16 * high + low) :: percentDecode cs
    | _, _ => String.utf8EncodeChar '%' ++ percentDecode (a :: b :: cs)
  | c :: cs => String.utf8EncodeChar c ++ percentDecode cs

/-- The text whose bytes are written, if they are those of a text. -/
def decoded? (cs : List Char) : Option String :=
  (percentDecode cs).toByteArray.utf8Decode?.map fun text ↦ String.ofList text.toList

theorem hexValue?_upperHex {n : Nat} (h : n < 16) : hexValue? (upperHex n) = some n := by
  have hall : ∀ n < 16, hexValue? (upperHex n) = some n := by decide
  exact hall n h

theorem upperHex_mem_hexDigits {n : Nat} (h : n < 16) : upperHex n ∈ hexDigits := by
  have hall : ∀ n < 16, upperHex n ∈ hexDigits := by decide
  exact hall n h

theorem percentDecode_percentByte (b : UInt8) (rest : List Char) :
    percentDecode (percentByte b ++ rest) = b :: percentDecode rest := by
  have hlt : b.toNat < 256 := b.toNat_lt
  have hhigh : b.toNat / 16 < 16 := by omega
  have hlow : b.toNat % 16 < 16 := by omega
  have hbyte : 16 * (b.toNat / 16) + b.toNat % 16 = b.toNat := Nat.div_add_mod _ _
  simp only [percentByte, List.cons_append, List.nil_append, percentDecode,
    hexValue?_upperHex hhigh, hexValue?_upperHex hlow, hbyte, UInt8.ofNat_toNat]

theorem percentDecode_percentBytes (bytes : List UInt8) (rest : List Char) :
    percentDecode (bytes.flatMap percentByte ++ rest) = bytes ++ percentDecode rest := by
  induction bytes with
  | nil => rfl
  | cons b bytes ih =>
      rw [List.flatMap_cons, List.append_assoc, percentDecode_percentByte, ih, List.cons_append]

theorem percentDecode_cons {c : Char} (h : c ≠ '%') (cs : List Char) :
    percentDecode (c :: cs) = String.utf8EncodeChar c ++ percentDecode cs := by
  rw [percentDecode]
  exact fun _ _ _ hc ↦ absurd hc h

theorem percentDecode_percentChar (c : Char) (rest : List Char) :
    percentDecode (percentChar c ++ rest) = String.utf8EncodeChar c ++ percentDecode rest := by
  rw [percentChar]
  split
  · next hplain =>
    refine percentDecode_cons ?_ rest
    rintro rfl
    cases hplain
  · exact percentDecode_percentBytes _ rest

theorem percentDecode_encode (cs : List Char) :
    percentDecode (cs.flatMap percentChar) = cs.flatMap String.utf8EncodeChar := by
  induction cs with
  | nil => rfl
  | cons c cs ih => rw [List.flatMap_cons, percentDecode_percentChar, ih, List.flatMap_cons]

/-- What was encoded is read back. -/
theorem decoded?_percentEncode (s : String) : decoded? (percentEncode s) = some s := by
  have hbytes : (s.toList.flatMap String.utf8EncodeChar).toByteArray = s.toList.utf8Encode := rfl
  rw [decoded?, percentEncode, percentDecode_encode, hbytes, List.utf8Decode?_utf8Encode]
  simp

/-! ## The characters of an encoding -/

theorem isUnreserved_iff {c : Char} :
    isUnreserved c = true ↔ c.isAlphanum = true ∨ c ∈ marks := by
  simp [isUnreserved, marks, or_assoc]

/-- Letters, digits and nine marks stand for themselves, and bytes are written as two digits. -/
inductive Encoded : List Char → Prop
  | nil : Encoded []
  | plain {c : Char} {cs : List Char} (hc : c.isAlphanum = true ∨ c ∈ marks)
      (hcs : Encoded cs) : Encoded (c :: cs)
  | byte {a b : Char} {cs : List Char} (ha : a ∈ hexDigits) (hb : b ∈ hexDigits)
      (hcs : Encoded cs) : Encoded ('%' :: a :: b :: cs)

namespace Encoded

variable {c : Char} {cs ds : List Char}

theorem append (h : Encoded cs) (hds : Encoded ds) : Encoded (cs ++ ds) := by
  induction h with
  | nil => exact hds
  | plain hc _ ih => exact .plain hc ih
  | byte ha hb _ ih => exact .byte ha hb ih

theorem percentBytes (bytes : List UInt8) : Encoded (bytes.flatMap percentByte) := by
  induction bytes with
  | nil => exact .nil
  | cons b bytes ih =>
      have hlt : b.toNat < 256 := b.toNat_lt
      exact .byte (upperHex_mem_hexDigits (by omega)) (upperHex_mem_hexDigits (by omega)) ih

theorem percentChar (c : Char) : Encoded (percentChar c) := by
  rw [Address.percentChar]
  split
  · next hplain => exact .plain (isUnreserved_iff.1 hplain) .nil
  · exact percentBytes _

theorem percentEncode (s : String) : Encoded (percentEncode s) := by
  rw [Address.percentEncode]
  induction s.toList with
  | nil => exact .nil
  | cons c cs ih => exact (percentChar c).append ih

theorem mem (h : Encoded cs) (hc : c ∈ cs) :
    c.isAlphanum = true ∨ c ∈ '%' :: marks := by
  have hdigit : ∀ d ∈ hexDigits, d.isAlphanum = true := List.all_eq_true.1 (by decide)
  induction h with
  | nil => cases hc
  | plain hd _ ih =>
      rcases List.mem_cons.1 hc with rfl | hc
      · exact hd.imp_right (List.mem_cons_of_mem _)
      · exact ih hc
  | byte ha hb _ ih =>
      simp only [List.mem_cons] at hc
      rcases hc with rfl | rfl | rfl | hc
      · exact Or.inr List.mem_cons_self
      · exact Or.inl (hdigit _ ha)
      · exact Or.inl (hdigit _ hb)
      · exact ih hc

theorem not_mem_of_reserved (h : Encoded cs) (hc : c ∈ "&#?=".toList) : c ∉ cs := by
  have hreserved : ∀ d ∈ "&#?=".toList,
      ¬ (d.isAlphanum = true ∨ d ∈ '%' :: marks) := List.all_iff_forall_prop.1 (by decide)
  exact fun hmem ↦ hreserved c hc (h.mem hmem)

/-- All characters of an encoding can be seen. -/
theorem toNat_bounds (h : Encoded cs) (hc : c ∈ cs) : 33 ≤ c.toNat ∧ c.toNat ≤ 126 := by
  rcases h.mem hc with hplain | hmark
  · have hranges : ((65 ≤ c.toNat ∧ c.toNat ≤ 90) ∨ 97 ≤ c.toNat ∧ c.toNat ≤ 122) ∨
        48 ≤ c.toNat ∧ c.toNat ≤ 57 := by
      simpa [Char.isAlphanum, Char.isAlpha, Char.isUpper, Char.isLower, Char.isDigit,
        UInt32.le_iff_toNat_le] using hplain
    omega
  · have hmarks : ∀ d ∈ '%' :: marks, 33 ≤ d.toNat ∧ d.toNat ≤ 126 :=
      List.all_iff_forall_prop.1 (by decide)
    exact hmarks c hmark

end Encoded

/-! ## The parts of an address -/

/-- What stands after the first `c`, if there is one. -/
def after? (c : Char) (cs : List Char) : Option (List Char) := (cs.dropWhile (· ≠ c)).tail?

def fragment? (url : String) : Option (List Char) := after? '#' url.toList

def query? (url : String) : Option (List Char) := after? '?' (url.toList.takeWhile (· ≠ '#'))

def parameters (url : String) : List (List Char) := (query? url).elim [] (List.splitOn '&')

section Parts

variable {c : Char} {cs ds : List Char}

theorem forall_ne_of_not_mem (h : c ∉ cs) : ∀ d ∈ cs, decide (d ≠ c) = true := by
  intro d hd
  rw [decide_eq_true_iff]
  rintro rfl
  exact h hd

theorem after?_of_not_mem (h : c ∉ cs) : after? c cs = none := by
  rw [after?, List.dropWhile_eq_nil_iff.2 (forall_ne_of_not_mem h), List.tail?_nil]

theorem after?_append_cons (h : c ∉ cs) (ds : List Char) : after? c (cs ++ c :: ds) = some ds := by
  rw [after?, List.dropWhile_append_of_pos (forall_ne_of_not_mem h)]
  simp

theorem after?_append_of_mem (h : c ∈ cs) (ds : List Char) :
    after? c (cs ++ ds) = (after? c cs).map (· ++ ds) := by
  obtain ⟨before, rest, rfl, hbefore⟩ := List.eq_append_cons_of_mem h
  rw [List.append_assoc, List.cons_append, after?_append_cons hbefore, after?_append_cons hbefore,
    Option.map_some]

theorem takeWhile_append_cons (h : c ∉ cs) (ds : List Char) :
    (cs ++ c :: ds).takeWhile (· ≠ c) = cs := by
  rw [List.takeWhile_append_of_pos (forall_ne_of_not_mem h)]
  simp

theorem takeWhile_append_of_mem (h : c ∈ cs) (ds : List Char) :
    (cs ++ ds).takeWhile (· ≠ c) = cs.takeWhile (· ≠ c) := by
  obtain ⟨before, rest, rfl, hbefore⟩ := List.eq_append_cons_of_mem h
  rw [List.append_assoc, List.cons_append, takeWhile_append_cons hbefore,
    takeWhile_append_cons hbefore]

theorem takeWhile_of_not_mem (h : c ∉ cs) : cs.takeWhile (· ≠ c) = cs :=
  List.takeWhile_eq_self_iff.2 (forall_ne_of_not_mem h)

end Parts

/-! ## The token of an address -/

/-- What stands between a base address and its last parameter. -/
def separator (base : String) : Char := if '?' ∈ base.toList then '&' else '?'

/-- The parameter that says what a token is. -/
def tokenParameter (token : Token) : List Char := "token=".toList ++ percentEncode token.secret

section Tokens

variable {base : String} {token : Token}

theorem toList_withToken (h : token.secret ≠ "") :
    (withToken base (some token)).toList =
      base.toList ++ separator base :: tokenParameter token := by
  rw [withToken, if_neg h, String.toList_ofList]
  rfl

theorem not_mem_tokenParameter {c : Char} (hc : c ∈ "&#?".toList) : c ∉ tokenParameter token := by
  have hname : ∀ d ∈ "&#?".toList, d ∉ "token=".toList ∧ d ∈ "&#?=".toList :=
    List.all_iff_forall_prop.1 (by decide)
  intro hmem
  rcases List.mem_append.1 hmem with hmem | hmem
  · exact (hname c hc).1 hmem
  · exact (Encoded.percentEncode token.secret).not_mem_of_reserved (hname c hc).2 hmem

theorem hash_not_mem_separator_cons : '#' ∉ separator base :: tokenParameter token := by
  rw [List.mem_cons, not_or]
  refine ⟨?_, not_mem_tokenParameter (by decide)⟩
  rw [separator]
  split <;> decide

/-- The token comes into a fragment that is there, and makes none. -/
theorem fragment?_withToken (h : token.secret ≠ "") :
    fragment? (withToken base (some token)) =
      (fragment? base).map (· ++ separator base :: tokenParameter token) := by
  rw [fragment?, fragment?, toList_withToken h]
  by_cases hhash : '#' ∈ base.toList
  · exact after?_append_of_mem hhash _
  · rw [after?_of_not_mem hhash, after?_of_not_mem, Option.map_none]
    rw [List.mem_append, not_or]
    exact ⟨hhash, hash_not_mem_separator_cons⟩

/-- The token is one more parameter, unless it comes into a fragment. -/
theorem parameters_withToken (h : token.secret ≠ "") :
    parameters (withToken base (some token)) =
      if '#' ∈ base.toList then parameters base else parameters base ++ [tokenParameter token] := by
  have hsingle : (tokenParameter token).splitOn '&' = [tokenParameter token] :=
    List.splitOn_eq_singleton (not_mem_tokenParameter (by decide))
  split
  · next hhash =>
    rw [parameters, parameters, query?, query?, toList_withToken h, takeWhile_append_of_mem hhash]
  · next hhash =>
    have hurl : '#' ∉ base.toList ++ separator base :: tokenParameter token := by
      rw [List.mem_append, not_or]
      exact ⟨hhash, hash_not_mem_separator_cons⟩
    rw [parameters, parameters, query?, query?, toList_withToken h, takeWhile_of_not_mem hurl,
      takeWhile_of_not_mem hhash]
    -- If there is a query, the separator ends its last parameter; otherwise it opens one.
    by_cases hquery : '?' ∈ base.toList
    · obtain ⟨before, query, hbase, hbefore⟩ := List.eq_append_cons_of_mem hquery
      rw [separator, if_pos hquery, after?_append_of_mem hquery, hbase, after?_append_cons hbefore]
      simp [List.splitOn_append_cons_self, hsingle]
    · rw [separator, if_neg hquery, after?_append_cons hquery, after?_of_not_mem hquery]
      simp [hsingle]

def IsControl (c : Char) : Prop := c.toNat < 0x20 ∨ 0x7F ≤ c.toNat ∧ c.toNat ≤ 0x9F

theorem mem_of_mem_withToken (h : token.secret ≠ "") {c : Char}
    (hc : c ∈ (withToken base (some token)).toList) (hodd : Text.isBlank c = true ∨ IsControl c) :
    c ∈ base.toList := by
  have hplain : ∀ d ∈ '&' :: '?' :: "token=".toList, 33 ≤ d.toNat ∧ d.toNat ≤ 126 :=
    List.all_iff_forall_prop.1 (by decide)
  have hnot : ¬ (33 ≤ c.toNat ∧ c.toNat ≤ 126) := by
    rintro ⟨hlow, hhigh⟩
    rcases hodd with hblank | hcontrol
    · simp only [Text.isBlank, Bool.or_eq_true, Bool.and_eq_true, decide_eq_true_eq,
        beq_iff_eq] at hblank
      omega
    · rcases hcontrol with hcontrol | hcontrol <;> omega
  -- All that comes after the base address can be seen.
  rw [toList_withToken h, List.mem_append] at hc
  refine hc.resolve_right fun hlast ↦ hnot ?_
  rcases List.mem_cons.1 hlast with rfl | hparameter
  · refine hplain _ ?_
    rw [separator]
    split <;> decide
  · rcases List.mem_append.1 hparameter with hname | hcode
    · exact hplain c (List.mem_cons_of_mem _ (List.mem_cons_of_mem _ hname))
    · exact (Encoded.percentEncode token.secret).toNat_bounds hcode

theorem withToken_injective {token' : Token} (h : token.secret ≠ "") (h' : token'.secret ≠ "")
    (heq : withToken base (some token) = withToken base (some token')) : token = token' := by
  have hlist := congrArg String.toList heq
  rw [toList_withToken h, toList_withToken h', List.append_cancel_left_eq,
    List.cons_inj_right] at hlist
  have hcode : percentEncode token.secret = percentEncode token'.secret :=
    List.append_cancel_left hlist
  have hdecoded := congrArg decoded? hcode
  rw [decoded?_percentEncode, decoded?_percentEncode, Option.some_inj] at hdecoded
  cases token
  cases token'
  cases hdecoded
  rfl

/-- An address that says what a token is: the base address with one more parameter at its end, from
which the token can be read, and with nothing else that is not in the base address. -/
structure Carries (url base : String) (token : Token) : Prop where
  text : url.toList = base.toList ++ separator base :: tokenParameter token
  encoded : Encoded (percentEncode token.secret)
  decoded : decoded? (percentEncode token.secret) = some token.secret
  parameters : parameters url =
    if '#' ∈ base.toList then parameters base else parameters base ++ [tokenParameter token]
  fragment : fragment? url = (fragment? base).map (· ++ separator base :: tokenParameter token)
  visible : ∀ c ∈ url.toList, Text.isBlank c = true ∨ IsControl c → c ∈ base.toList

/-- With a token that is not empty an address carries it, and with another token it is another
address. Without a token, or with an empty one, it is the base address. -/
theorem withToken_carries (base : String) :
    (∀ token : Token, token.secret ≠ "" → Carries (withToken base (some token)) base token) ∧
    (∀ token token' : Token, token.secret ≠ "" → token'.secret ≠ "" →
      withToken base (some token) = withToken base (some token') → token = token') ∧
    ∀ token : Option Token, (∀ t ∈ token, t.secret = "") → withToken base token = base := by
  refine ⟨fun token h ↦ ?_, fun token token' ↦ withToken_injective, fun token h ↦ ?_⟩
  · exact ⟨toList_withToken h, .percentEncode _, decoded?_percentEncode _, parameters_withToken h,
      fragment?_withToken h, fun c ↦ mem_of_mem_withToken h⟩
  · cases token with
    | none => rfl
    | some token => exact if_pos (h token rfl)

/-- A token that has all the signs by which an address is cut, and a character of two bytes. -/
theorem carries_reserved :
    Carries "wss://h/ws?v=2&token=%3F%26%23%25%C3%A9" "wss://h/ws?v=2" ⟨"?&#%\xe9"⟩ := by
  obtain ⟨hcarries, -, -⟩ := withToken_carries "wss://h/ws?v=2"
  have hurl : withToken "wss://h/ws?v=2" (some ⟨"?&#%\xe9"⟩) =
      "wss://h/ws?v=2&token=%3F%26%23%25%C3%A9" := by decide
  rw [← hurl]
  exact hcarries ⟨"?&#%\xe9"⟩ (by decide)

end Tokens

end EventFeed.Connection.Address
