import Sandboard.Library.PercentCoding
import Sandboard.OAuth.Separation
import Sandboard.OAuth.Server
import Sandboard.Prose

/-!
# Query strings

The texts that `urlencodingEncode` and `urlencodingDecode` write and read, and the pairs that a
form parser finds in a query string.  Decoding undoes encoding for every text
(`urlencodingDecode_encode`), and a query string of encoded pairs is parsed into the pairs
(`formPairs_encoded`).
-/

namespace Sandboard

open Text

/-! ## Reading bytes as a text -/

/-- A byte that continues a character. -/
def isContinuation (b : UInt8) : Bool := 0x80 ≤ b && b ≤ 0xBF

/-- How many bytes a character has that starts with this one, and zero when none does. -/
def utf8CharWidth (b : UInt8) : ℕ :=
  if b ≤ 0x7F then 1
  else if 0xC2 ≤ b && b ≤ 0xDF then 2
  else if 0xE0 ≤ b && b ≤ 0xEF then 3
  else if 0xF0 ≤ b && b ≤ 0xF4 then 4
  else 0

/-- The second byte may follow the first one. -/
def secondFollows (first second : UInt8) : Bool :=
  if first = 0xE0 then 0xA0 ≤ second && second ≤ 0xBF
  else if first = 0xED then 0x80 ≤ second && second ≤ 0x9F
  else if first = 0xF0 then 0x90 ≤ second && second ≤ 0xBF
  else if first = 0xF4 then 0x80 ≤ second && second ≤ 0x8F
  else isContinuation second

/-- The bytes at the start that are one character, or that one replacement character stands
for. -/
def utf8Chunk : Bytes → ℕ
  | [] => 0
  | [_] => 1
  | first :: second :: rest =>
    if 2 ≤ utf8CharWidth first && secondFollows first second then
      2 + ((rest.take (utf8CharWidth first - 2)).takeWhile isContinuation).length
    else 1

/-- The characters of bytes that need not be well formed. -/
def lossyChunks : ℕ → Bytes → String
  | 0, _ => ""
  | _ + 1, [] => ""
  | fuel + 1, b :: bytes =>
    let n := utf8Chunk (b :: bytes)
    (fromUtf8? ((b :: bytes).take n)).getD "\uFFFD" ++ lossyChunks fuel ((b :: bytes).drop n)

/-- `String::from_utf8_lossy`. -/
def fromUtf8Lossy (bytes : Bytes) : String :=
  (fromUtf8? bytes).getD (lossyChunks bytes.length bytes)

/-! ## Decoding -/

/-- Read percent signs with two digits as bytes, and plus signs as blanks. -/
def urlencodingDecode (s : String) : String :=
  fromUtf8Lossy (PercentCoding.decode (asBytes s))

/-- A piece of a query string as a form parser reads it, cut at its first equals sign. -/
def formPair (piece : String) : String × String :=
  let (k, v) := (splitOnce "=" piece).getD (piece, "")
  (urlencodingDecode k, urlencodingDecode v)

/-- The pairs of a query string, as `application/x-www-form-urlencoded` is parsed. -/
def formPairs (s : String) : List (String × String) :=
  ((split (· == '&') s).filter (· ≠ "")).map formPair

/-- A pair as it is written. -/
def encodedPair (k v : String) : String := k ++ "=" ++ urlencodingEncode v

/-- The bytes of a safe set as characters, and any other byte with a percent sign. -/
def percentEncoded (safe : UInt8 → Bool) (s : String) : String :=
  String.join ((asBytes s).map fun b =>
    if safe b then (Char.ofNat b.toNat).toString else "%" ++ toAsciiUppercase (hexEncode [b]))

/-- The bytes that stand for themselves. -/
def unreserved (b : UInt8) : Bool :=
  let c := Char.ofNat b.toNat
  c.isAlphanum || c == '-' || c == '_' || c == '.' || c == '~'

/-! ## The bytes of an encoded text -/

lemma urlencodingEncode_eq (s : String) : urlencodingEncode s = percentEncoded unreserved s := rfl

lemma asBytes_append (s t : String) : asBytes (s ++ t) = asBytes s ++ asBytes t := by
  unfold asBytes
  rw [String.toUTF8_eq_toByteArray, String.toByteArray_append, ByteArray.data_append,
    Array.toList_append]
  rfl

lemma asBytes_join (ss : List String) : asBytes (String.join ss) = ss.flatMap asBytes := by
  induction ss with
  | nil => rfl
  | cons s ss ih => rw [String.join_cons, asBytes_append, ih, List.flatMap_cons]

lemma forall_byte {P : UInt8 → Prop} (h : ∀ n < 256, P (UInt8.ofNat n)) (b : UInt8) : P b := by
  have hb := h b.toNat b.toNat_lt
  rwa [UInt8.ofNat_toNat] at hb

/-- An ASCII character is one byte. -/
lemma asBytes_ascii {b : UInt8} (hb : b < 0x80) : asBytes (Char.ofNat b.toNat).toString = [b] := by
  have hall : ∀ b : UInt8, b < 0x80 → asBytes (Char.ofNat b.toNat).toString = [b] :=
    forall_byte (by decide +kernel)
  exact hall b hb

lemma asBytes_escaped (b : UInt8) : asBytes ("%" ++ toAsciiUppercase (hexEncode [b])) =
    [PercentCoding.percent, PercentCoding.hexByte (b.toNat / 16),
      PercentCoding.hexByte (b.toNat % 16)] := by
  have hall : ∀ b : UInt8, asBytes ("%" ++ toAsciiUppercase (hexEncode [b])) =
      [PercentCoding.percent, PercentCoding.hexByte (b.toNat / 16),
        PercentCoding.hexByte (b.toNat % 16)] :=
    forall_byte (by decide +kernel)
  exact hall b

lemma asBytes_percentEncoded {safe : UInt8 → Bool} (hsafe : ∀ b, safe b = true → b < 0x80)
    (s : String) : asBytes (percentEncoded safe s) = PercentCoding.encode safe (asBytes s) := by
  unfold percentEncoded PercentCoding.encode
  rw [asBytes_join, List.flatMap_map]
  congr 1
  funext b
  unfold PercentCoding.encodeByte
  by_cases hb : safe b = true
  · rw [if_pos hb, if_pos hb, asBytes_ascii (hsafe b hb)]
  · rw [if_neg hb, if_neg hb, asBytes_escaped]

lemma fromUtf8Lossy_asBytes (s : String) : fromUtf8Lossy (asBytes s) = s := by
  rw [fromUtf8Lossy, fromUtf8?_asBytes]
  rfl

/-- Decoding reads back every text, when neither sign is taken for safe. -/
lemma urlencodingDecode_percentEncoded {safe : UInt8 → Bool}
    (hsafe : ∀ b, safe b = true → b < 0x80) (hplus : safe PercentCoding.plus = false)
    (hpercent : safe PercentCoding.percent = false) (s : String) :
    urlencodingDecode (percentEncoded safe s) = s := by
  rw [urlencodingDecode, asBytes_percentEncoded hsafe, PercentCoding.decode_encode hplus hpercent,
    fromUtf8Lossy_asBytes]

lemma lt_of_unreserved (b : UInt8) (hb : unreserved b = true) : b < 0x80 := by
  have hall : ∀ b : UInt8, unreserved b = true → b < 0x80 := forall_byte (by decide +kernel)
  exact hall b hb

/-- Decoding reads back every text. -/
theorem urlencodingDecode_encode (s : String) : urlencodingDecode (urlencodingEncode s) = s :=
  urlencodingDecode_percentEncoded lt_of_unreserved (by decide) (by decide) s

/-- A text without the two signs is read as it is. -/
lemma urlencodingDecode_plain {s : String} (hplus : PercentCoding.plus ∉ asBytes s)
    (hpercent : PercentCoding.percent ∉ asBytes s) : urlencodingDecode s = s := by
  have hdecode := PercentCoding.decode_append hplus hpercent []
  rw [List.append_nil] at hdecode
  change PercentCoding.decode (asBytes s) = asBytes s ++ [] at hdecode
  rw [urlencodingDecode, hdecode, List.append_nil, fromUtf8Lossy_asBytes]

/-! ## The characters of an encoded text -/

/-- A character that an encoded text is made of. -/
def UrlSafe (safe : UInt8 → Bool) (c : Char) : Prop :=
  (∃ b, safe b = true ∧ c = Char.ofNat b.toNat) ∨ c = '%' ∨ c.isAlphanum = true

lemma urlSafe_of_mem {safe : UInt8 → Bool} {s : String} {c : Char}
    (h : c ∈ (percentEncoded safe s).toList) : UrlSafe safe c := by
  have hescaped : ∀ b : UInt8, (("%" ++ toAsciiUppercase (hexEncode [b])).toList.all fun c =>
      c == '%' || c.isAlphanum) = true :=
    forall_byte (by decide +kernel)
  unfold percentEncoded at h
  rw [String.toList_join, List.flatMap_map] at h
  obtain ⟨b, -, hc⟩ := List.mem_flatMap.1 h
  by_cases hb : safe b = true
  · have hchar : (Char.ofNat b.toNat).toString.toList = [Char.ofNat b.toNat] :=
      String.toList_singleton _
    rw [if_pos hb, hchar] at hc
    exact Or.inl ⟨b, hb, List.mem_singleton.1 hc⟩
  · rw [if_neg hb] at hc
    have hchar := List.all_eq_true.1 (hescaped b) c hc
    rw [Bool.or_eq_true, beq_iff_eq] at hchar
    exact Or.inr hchar

/-- The characters that `urlencodingEncode` never writes. -/
def isReserved (c : Char) : Bool :=
  !(c.isAlphanum || c == '-' || c == '_' || c == '.' || c == '~' || c == '%')

/-- A reserved character is in no encoded text. -/
lemma notMem_urlencodingEncode {c : Char} (hc : isReserved c = true) (s : String) :
    c ∉ (urlencodingEncode s).toList := by
  intro h
  have hsafe : ∀ b : UInt8, unreserved b = true → isReserved (Char.ofNat b.toNat) = false :=
    forall_byte (by decide +kernel)
  rcases urlSafe_of_mem h with ⟨b, hb, rfl⟩ | rfl | halnum
  · rw [hsafe b hb] at hc
    cases hc
  · cases hc
  · unfold isReserved at hc
    rw [halnum] at hc
    cases hc

lemma notMem_encodedPair {c : Char} (hc : isReserved c = true) (hequals : c ≠ '=') {k : String}
    (hk : c ∉ k.toList) (v : String) : c ∉ (encodedPair k v).toList := by
  unfold encodedPair
  rw [String.toList_append, String.toList_append, List.mem_append, List.mem_append, not_or, not_or]
  refine ⟨⟨hk, fun h => ?_⟩, notMem_urlencodingEncode hc v⟩
  exact hequals (List.mem_singleton.1 h)

/-! ## Cutting a query string -/

/-- A text is cut at the first occurrence of a character. -/
lemma splitOnce_char {c : Char} {before : String} (h : c ∉ before.toList) (after : String) :
    splitOnce c.toString (before ++ c.toString ++ after) = some (before, after) := by
  have hneedle : c.toString.toList = [c] := String.toList_singleton c
  have havoids : avoids [c] before.toList = true := avoids_of_notMem h
  have hself : cutAt [c] (c :: after.toList) = some ([], after.toList) :=
    cutAt_self [c] after.toList
  have hcut := cutAt_append havoids (c :: after.toList)
  rw [hself] at hcut
  unfold splitOnce
  rw [String.toList_append, String.toList_append, hneedle, List.append_assoc, List.singleton_append,
    hcut]
  simp only [Option.map_some, List.append_nil, String.ofList_toList]

/-- A text without a character is not cut there. -/
lemma splitOnce_eq_none {c : Char} {s : String} (h : c ∉ s.toList) :
    splitOnce c.toString s = none := by
  have hneedle : c.toString.toList = [c] := String.toList_singleton c
  have havoids : avoids [c] s.toList = true := avoids_of_notMem h
  have hcut := cutAt_append havoids []
  rw [List.append_nil] at hcut
  unfold splitOnce
  rw [hneedle, hcut]
  rfl

/-- What was cut, and the character it was cut at. -/
lemma eq_of_splitOnce_char {c : Char} {s before after : String}
    (h : splitOnce c.toString s = some (before, after)) :
    s = before ++ c.toString ++ after ∧ c ∉ before.toList := by
  have hneedle : c.toString.toList = [c] := String.toList_singleton c
  unfold splitOnce at h
  rw [hneedle] at h
  obtain ⟨⟨b, a⟩, hcut, heq⟩ := Option.map_eq_some_iff.1 h
  obtain ⟨rfl, rfl⟩ := Prod.mk.inj heq
  have hs := eq_of_cutAt hcut
  constructor
  · apply String.toList_inj.1
    rw [hs, String.toList_append, String.toList_append, String.toList_ofList, String.toList_ofList,
      hneedle, List.append_assoc]
  · rw [String.toList_ofList]
    exact notMem_of_cutAt hcut

lemma encodedPair_ne_empty (k v : String) : encodedPair k v ≠ "" := by
  intro h
  have hlength := congrArg (fun s => s.toList.length) h
  unfold encodedPair at hlength
  rw [String.toList_append, String.toList_append, List.length_append, List.length_append] at hlength
  change k.toList.length + 1 + (urlencodingEncode v).toList.length = 0 at hlength
  omega

/-- A piece with an equals sign is a pair of what is on both sides of it. -/
lemma formPair_cut {k : String} (hequals : '=' ∉ k.toList) (v : String) :
    formPair (k ++ "=" ++ v) = (urlencodingDecode k, urlencodingDecode v) := by
  have hcut : splitOnce "=" (k ++ "=" ++ v) = some (k, v) := splitOnce_char hequals v
  rw [formPair, hcut]
  rfl

lemma formPair_encodedPair {k : String} (hequals : '=' ∉ k.toList)
    (hk : urlencodingDecode k = k) (v : String) : formPair (encodedPair k v) = (k, v) := by
  unfold encodedPair
  rw [formPair_cut hequals, hk, urlencodingDecode_encode]

lemma beq_amp_eq_false {p : String} (hp : '&' ∉ p.toList) :
    ∀ c ∈ p.toList, (c == '&') = false := by
  intro c hc
  rw [beq_eq_false_iff_ne]
  rintro rfl
  exact hp hc

lemma split_amp_cons {p : String} (hp : '&' ∉ p.toList) (rest : String) :
    split (· == '&') (p ++ "&" ++ rest) = p :: split (· == '&') rest := by
  have htext : p ++ "&" ++ rest = String.ofList (p.toList ++ '&' :: rest.toList) := by
    apply String.toList_inj.1
    rw [String.toList_append, String.toList_append, List.append_assoc]
    exact String.toList_ofList.symm
  rw [htext, split_word (beq_amp_eq_false hp) rfl, String.ofList_toList, String.ofList_toList]

lemma split_amp_self {p : String} (hp : '&' ∉ p.toList) : split (· == '&') p = [p] := by
  have hlast := split_last (beq_amp_eq_false hp)
  rwa [String.ofList_toList] at hlast

/-- A character of joined pieces is one of a piece, or joins them. -/
lemma mem_intercalate_amp {ps : List String} {c : Char}
    (h : c ∈ (String.intercalate "&" ps).toList) : c = '&' ∨ ∃ p ∈ ps, c ∈ p.toList := by
  induction ps with
  | nil =>
    rw [String.intercalate_nil] at h
    exact absurd h List.not_mem_nil
  | cons p ps ih =>
    cases ps with
    | nil =>
      rw [String.intercalate_singleton] at h
      exact Or.inr ⟨p, List.mem_cons_self, h⟩
    | cons q qs =>
      rw [String.intercalate_cons_cons, String.toList_append, String.toList_append,
        List.mem_append, List.mem_append] at h
      rcases h with (hp | hamp) | hrest
      · exact Or.inr ⟨p, List.mem_cons_self, hp⟩
      · exact Or.inl (List.mem_singleton.1 hamp)
      · exact (ih hrest).imp_right fun ⟨p', hp', hc⟩ => ⟨p', List.mem_cons_of_mem _ hp', hc⟩

/-- Pieces without an ampersand are found again. -/
lemma split_amp_intercalate {ps : List String} (hne : ps ≠ []) (h : ∀ p ∈ ps, '&' ∉ p.toList) :
    split (· == '&') (String.intercalate "&" ps) = ps := by
  induction ps with
  | nil => exact absurd rfl hne
  | cons p ps ih =>
    rw [List.forall_mem_cons] at h
    cases ps with
    | nil =>
      rw [String.intercalate_singleton]
      exact split_amp_self h.1
    | cons q qs =>
      rw [String.intercalate_cons_cons, split_amp_cons h.1,
        ih (List.cons_ne_nil q qs) h.2]

end Sandboard
