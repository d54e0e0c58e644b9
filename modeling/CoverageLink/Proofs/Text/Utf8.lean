import CoverageLink.Proofs.Octet
import CoverageLink.Text.Utf8

/-!
# Decoding what was encoded

`Utf8.decode (Utf8.encode text) = .ok text`, for every text.

The decoder reads a lead octet, takes from it how many octets follow and in which range
the first of them lies, and adds up six bits for each.  So the work is per character:
`readChar_encodeChar` follows the four lengths of an encoding and, inside the longer two,
the lead octets whose ranges are narrowed.  That a code point is no surrogate and not
beyond the last one is used exactly there.

From one character to a text is an induction on the text (`scan_encode`); what it carries
is that a scan of an encoding adds the characters, and nothing else, to what was seen.

Encoding keeps the order (`encode_lt`): texts that are sorted are sorted by their octets.  This
is again per character, and again by the four lengths.

Nothing is said here about octets that are no encoding, but one thing about octets that are: the
text is not longer in octets than what it was read from (`length_encode_le`), so whatever was read
can be written again where it came from.
-/

namespace CoverageLink
namespace Utf8

open Octet
open String (utf8EncodeChar)

/-! ## Lead octets -/

/-- The announcement of a lead octet, in terms of its number. -/
theorem lead?_ofNat {n : Nat} (h : n < 256) :
    lead? (UInt8.ofNat n) =
      if n < 0x80 then some ⟨0, 0x80, 0xBF, n⟩
      else if n < 0xC2 then none
      else if n < 0xE0 then some ⟨1, 0x80, 0xBF, n % 32⟩
      else if n = 0xE0 then some ⟨2, 0xA0, 0xBF, 0⟩
      else if n = 0xED then some ⟨2, 0x80, 0x9F, 0x0D⟩
      else if n < 0xF0 then some ⟨2, 0x80, 0xBF, n % 16⟩
      else if n = 0xF0 then some ⟨3, 0x90, 0xBF, 0⟩
      else if n < 0xF4 then some ⟨3, 0x80, 0xBF, n % 8⟩
      else if n = 0xF4 then some ⟨3, 0x80, 0x8F, 4⟩
      else none := by
  unfold lead?
  simp only [ofNat_lt_iff h, ofNat_eq_iff h]
  rw [toNat_ofNat_of_lt h, toNat_and_mask h 5 0x1F rfl, toNat_and_mask h 4 0x0F rfl,
    toNat_and_mask h 3 0x07 rfl]
  rfl

/-! ## Continuation octets -/

/-- A continuation octet within the range that is asked for adds its six bits. -/
theorem readTail_cons {x : Nat} (six : x < 64) {low high : UInt8} (least : low.toNat ≤ x + 0x80)
    (greatest : x + 0x80 ≤ high.toNat) (following code seen : Nat) (rest : Bytes) :
    readTail (following + 1) low high code seen (UInt8.ofNat (x + 0x80) :: rest) =
      readTail following 0x80 0xBF (code * 64 + x) (seen + 1) rest := by
  have value : (UInt8.ofNat (x + 0x80)).toNat = x + 0x80 := toNat_ofNat_of_lt (by omega)
  have above : low ≤ UInt8.ofNat (x + 0x80) := by
    rw [UInt8.le_iff_toNat_le, value]
    exact least
  have below : UInt8.ofNat (x + 0x80) ≤ high := by
    rw [UInt8.le_iff_toNat_le, value]
    exact greatest
  have bits : (UInt8.ofNat (x + 0x80) &&& 0x3F).toNat = x := by
    rw [toNat_and_mask (by omega) 6 0x3F rfl]
    show (x + 0x80) % 64 = x
    omega
  rw [readTail, decide_eq_true above, decide_eq_true below, Bool.true_and, if_pos rfl, bits]

/-- A continuation octet after the first one lies in the whole range. -/
theorem readTail_cons' {x : Nat} (six : x < 64) (following code seen : Nat) (rest : Bytes) :
    readTail (following + 1) 0x80 0xBF code seen (UInt8.ofNat (x + 0x80) :: rest) =
      readTail following 0x80 0xBF (code * 64 + x) (seen + 1) rest := by
  refine readTail_cons six ?_ ?_ following code seen rest
  · show 0x80 ≤ x + 0x80
    omega
  · show x + 0x80 ≤ 0xBF
    omega

/-! ## Characters -/

theorem readChar_of_lead? {octet : UInt8} {following bits : Nat} {low high : UInt8}
    (h : lead? octet = some ⟨following, low, high, bits⟩) (rest : Bytes) :
    readChar octet rest = readTail following low high bits 1 rest := by
  rw [readChar, h]

theorem readChar_one {v : Nat} (high : v ≤ 0x7F) (rest : Bytes) :
    readChar (UInt8.ofNat v) rest = .complete v 1 := by
  have lead := lead?_ofNat (show v < 256 by omega)
  rw [if_pos (by omega)] at lead
  rw [readChar_of_lead? lead, readTail]

theorem readChar_two {v : Nat} (low : 0x7F < v) (high : v ≤ 0x7FF) (rest : Bytes) :
    readChar (UInt8.ofNat (v / 64 % 0x20 + 0xC0)) (UInt8.ofNat (v % 0x40 + 0x80) :: rest) =
      .complete v 2 := by
  have lead := lead?_ofNat (show v / 64 % 0x20 + 0xC0 < 256 by omega)
  rw [if_neg (by omega), if_neg (by omega), if_pos (by omega)] at lead
  rw [readChar_of_lead? lead, readTail_cons' (by omega), readTail]
  congr 1
  omega

/-- Three octets.  The first continuation octet is narrowed behind `0xE0`, where a shorter form
would do, and behind `0xED`, where a surrogate would begin. -/
theorem readChar_three {v : Nat} (low : 0x7FF < v) (high : v ≤ 0xFFFF)
    (valid : v < 0xD800 ∨ 0xDFFF < v) (rest : Bytes) :
    readChar (UInt8.ofNat (v / 4096 % 0x10 + 0xE0))
        (UInt8.ofNat (v / 64 % 0x40 + 0x80) :: UInt8.ofNat (v % 0x40 + 0x80) :: rest) =
      .complete v 3 := by
  have lead := lead?_ofNat (show v / 4096 % 0x10 + 0xE0 < 256 by omega)
  rw [if_neg (by omega), if_neg (by omega), if_neg (by omega)] at lead
  by_cases shortest : v / 4096 % 0x10 + 0xE0 = 0xE0
  · rw [if_pos shortest] at lead
    rw [readChar_of_lead? lead,
      readTail_cons (by omega) (show 0xA0 ≤ v / 64 % 0x40 + 0x80 by omega)
        (show v / 64 % 0x40 + 0x80 ≤ 0xBF by omega),
      readTail_cons' (by omega), readTail]
    congr 1
    omega
  · rw [if_neg shortest] at lead
    by_cases surrogate : v / 4096 % 0x10 + 0xE0 = 0xED
    · rw [if_pos surrogate] at lead
      rw [readChar_of_lead? lead,
        readTail_cons (by omega) (show 0x80 ≤ v / 64 % 0x40 + 0x80 by omega)
          (show v / 64 % 0x40 + 0x80 ≤ 0x9F by omega),
        readTail_cons' (by omega), readTail]
      congr 1
      omega
    · rw [if_neg surrogate, if_pos (by omega)] at lead
      rw [readChar_of_lead? lead, readTail_cons' (by omega), readTail_cons' (by omega), readTail]
      congr 1
      omega

/-- Four octets.  The first continuation octet is narrowed behind `0xF0`, where a shorter form
would do, and behind `0xF4`, where the code points end. -/
theorem readChar_four {v : Nat} (low : 0xFFFF < v) (high : v < 0x110000) (rest : Bytes) :
    readChar (UInt8.ofNat (v / 262144 % 0x08 + 0xF0))
        (UInt8.ofNat (v / 4096 % 0x40 + 0x80) :: UInt8.ofNat (v / 64 % 0x40 + 0x80) ::
          UInt8.ofNat (v % 0x40 + 0x80) :: rest) =
      .complete v 4 := by
  have lead := lead?_ofNat (show v / 262144 % 0x08 + 0xF0 < 256 by omega)
  rw [if_neg (by omega), if_neg (by omega), if_neg (by omega), if_neg (by omega),
    if_neg (by omega), if_neg (by omega)] at lead
  by_cases shortest : v / 262144 % 0x08 + 0xF0 = 0xF0
  · rw [if_pos shortest] at lead
    rw [readChar_of_lead? lead,
      readTail_cons (by omega) (show 0x90 ≤ v / 4096 % 0x40 + 0x80 by omega)
        (show v / 4096 % 0x40 + 0x80 ≤ 0xBF by omega),
      readTail_cons' (by omega), readTail_cons' (by omega), readTail]
    congr 1
    omega
  · rw [if_neg shortest] at lead
    by_cases last : v / 262144 % 0x08 + 0xF0 < 0xF4
    · rw [if_pos last] at lead
      rw [readChar_of_lead? lead, readTail_cons' (by omega), readTail_cons' (by omega),
        readTail_cons' (by omega), readTail]
      congr 1
      omega
    · rw [if_neg last, if_pos (by omega)] at lead
      rw [readChar_of_lead? lead,
        readTail_cons (by omega) (show 0x80 ≤ v / 4096 % 0x40 + 0x80 by omega)
          (show v / 4096 % 0x40 + 0x80 ≤ 0x8F by omega),
        readTail_cons' (by omega), readTail_cons' (by omega), readTail]
      congr 1
      omega

/-- **A character is read back from its octets**, whatever follows them. -/
theorem readChar_encodeChar (c : Char) (rest : Bytes) :
    ∃ first others, utf8EncodeChar c = first :: others ∧
      readChar first (others ++ rest) = .complete c.toNat (others.length + 1) := by
  have valid : c.toNat < 0xD800 ∨ 0xDFFF < c.toNat ∧ c.toNat < 0x110000 := c.valid
  fun_cases utf8EncodeChar c with
  | case1 v one => exact ⟨_, _, rfl, readChar_one one rest⟩
  | case2 v one two => exact ⟨_, _, rfl, readChar_two (Nat.lt_of_not_le one) two rest⟩
  | case3 v one two three =>
    exact ⟨_, _, rfl, readChar_three (Nat.lt_of_not_le two) three (valid.imp_right And.left) rest⟩
  | case4 v one two three =>
    have bound : c.toNat < 0x110000 := by omega
    exact ⟨_, _, rfl, readChar_four (Nat.lt_of_not_le three) bound rest⟩

/-! ## Texts -/

/-- A scan of an encoding adds the characters, the last first, to what was seen. -/
theorem scan_encode (text : List Char) (index : Nat) (seen : List Stretch) :
    scan index seen (text.flatMap utf8EncodeChar) =
      (text.map Stretch.char).reverse ++ seen := by
  induction text generalizing index seen with
  | nil => simp [scan]
  | cons c text ih =>
    obtain ⟨first, others, encoded, read⟩ :=
      readChar_encodeChar c (text.flatMap utf8EncodeChar)
    have back : Char.ofNat c.toNat = c := Char.ofNat_toNat c
    rw [List.flatMap_cons, encoded, List.cons_append, scan, read]
    simp only
    rw [Nat.add_sub_cancel, List.drop_left, ih, back]
    simp

theorem collect_map_char (text found : List Char) :
    collect (text.map Stretch.char) (.ok found) = .ok (text.reverse ++ found) := by
  induction text generalizing found with
  | nil => rfl
  | cons c text ih =>
    rw [List.map_cons, collect, ih]
    simp

/-- **Decoding undoes encoding.** -/
theorem decode_encode (text : String) : decode (encode text) = .ok text := by
  rw [decode, encode, scan_encode, List.append_nil, ← List.map_reverse, collect_map_char,
    List.reverse_reverse, List.append_nil]
  show Except.ok (String.ofList text.toList) = _
  rw [String.ofList_toList]

/-- What is a text is shown as it is. -/
theorem decodeLossy_encode (text : String) : decodeLossy (encode text) = text := by
  rw [decodeLossy, encode, scan_encode, List.append_nil, List.reverse_reverse, List.map_map]
  show String.ofList (text.toList.map id) = text
  rw [List.map_id, String.ofList_toList]

/-- An octet below 128 is in a character only if it is that character. -/
theorem eq_of_mem_utf8EncodeChar {c d : Char} (small : d.toNat < 0x80) :
    UInt8.ofNat d.toNat ∈ utf8EncodeChar c → c = d := by
  have number {v : Nat} (octet : v < 0x100) (same : UInt8.ofNat d.toNat = UInt8.ofNat v) :
      d.toNat = v := by
    rw [ofNat_eq_iff (by omega), toNat_ofNat_of_lt octet] at same
    exact same
  have apart {v : Nat} (large : 0x80 ≤ v) (octet : v < 0x100) :
      UInt8.ofNat d.toNat ≠ UInt8.ofNat v := fun same => by
    have := number octet same
    omega
  fun_cases utf8EncodeChar c with
  | case1 v one =>
    intro same
    have one : c.toNat ≤ 0x7F := one
    exact Char.toNat_inj.1 (number (by omega) (List.mem_singleton.1 same)).symm
  | case2 v one two =>
    have two : v ≤ 0x7FF := two
    simp only [List.mem_cons, List.not_mem_nil, or_false]
    rintro (same | same) <;> exact absurd same (apart (by omega) (by omega))
  | case3 v one two three =>
    simp only [List.mem_cons, List.not_mem_nil, or_false]
    rintro (same | same | same) <;> exact absurd same (apart (by omega) (by omega))
  | case4 v one two three =>
    simp only [List.mem_cons, List.not_mem_nil, or_false]
    rintro (same | same | same | same) <;> exact absurd same (apart (by omega) (by omega))

/-! ## Lengths -/

theorem length_encode (text : String) : (encode text).length = text.utf8ByteSize := by
  rw [← String.size_toByteArray, ← String.utf8Encode_toList, List.utf8Encode, encode]
  simp

theorem length_utf8EncodeChar (c : Char) :
    (utf8EncodeChar c).length =
      if c.toNat ≤ 0x7F then 1 else if c.toNat ≤ 0x7FF then 2 else if c.toNat ≤ 0xFFFF then 3
      else 4 := by
  fun_cases utf8EncodeChar c with
  | case1 v one => rw [if_pos (show c.toNat ≤ 0x7F from one)]; rfl
  | case2 v one two =>
    rw [if_neg (show ¬ c.toNat ≤ 0x7F from one), if_pos (show c.toNat ≤ 0x7FF from two)]
    rfl
  | case3 v one two three =>
    rw [if_neg (show ¬ c.toNat ≤ 0x7F from one), if_neg (show ¬ c.toNat ≤ 0x7FF from two),
      if_pos (show c.toNat ≤ 0xFFFF from three)]
    rfl
  | case4 v one two three =>
    rw [if_neg (show ¬ c.toNat ≤ 0x7F from one), if_neg (show ¬ c.toNat ≤ 0x7FF from two),
      if_neg (show ¬ c.toNat ≤ 0xFFFF from three)]
    rfl

theorem toNat_ofNat_le (code : Nat) : (Char.ofNat code).toNat ≤ code := by
  by_cases valid : code.isValidChar
  · rw [Char.ofNat, dif_pos valid]
    exact Nat.le_refl _
  · rw [Char.ofNat, dif_neg valid]
    exact Nat.zero_le _

/-- A continuation octet adds six bits. -/
theorem readTail_succ {following code seen code' length : Nat} {low high : UInt8} {rest : Bytes}
    (read : readTail (following + 1) low high code seen rest = .complete code' length) :
    ∃ x others, x < 64 ∧ others.length + 1 = rest.length ∧
      readTail following 0x80 0xBF (code * 64 + x) (seen + 1) others = .complete code' length := by
  cases rest with
  | nil => cases read
  | cons octet others =>
    rw [readTail] at read
    split at read
    · refine ⟨_, others, ?_, rfl, read⟩
      rw [UInt8.toNat_and]
      exact Nat.lt_of_le_of_lt Nat.and_le_right (by decide)
    · cases read

/-- A lead octet leaves little to be added to the bits of a short character. -/
theorem lead?_bits {octet : UInt8} {lead : Lead} (announced : lead? octet = some lead) :
    lead.following = 0 ∧ lead.bits < 0x80 ∨ lead.following = 1 ∧ lead.bits < 0x20 ∨
      lead.following = 2 ∧ lead.bits < 0x10 ∨ lead.following = 3 := by
  have octet_lt := octet.toNat_lt
  have spelled : octet = UInt8.ofNat octet.toNat := (UInt8.ofNat_toNat).symm
  rw [spelled, lead?_ofNat octet_lt] at announced
  generalize octet.toNat = n at announced octet_lt
  repeat' split at announced
  all_goals cases announced
  all_goals dsimp only; omega

/-- **A character takes up no more than the octets it was read from.** -/
theorem length_le_of_readChar {octet : UInt8} {rest : Bytes} {code length : Nat}
    (read : readChar octet rest = .complete code length) :
    (utf8EncodeChar (Char.ofNat code)).length ≤ length ∧ 1 ≤ length ∧ length ≤ rest.length + 1 := by
  have value := toNat_ofNat_le code
  unfold readChar at read
  split at read
  · cases read
  rename_i lead announced
  rw [length_utf8EncodeChar]
  rcases lead?_bits announced with ⟨following, bits⟩ | ⟨following, bits⟩ | ⟨following, bits⟩ |
    following <;> rw [following] at read
  · cases read
    grind
  · obtain ⟨x, rest, six, left, read⟩ := readTail_succ read
    cases read
    grind
  · obtain ⟨x, rest, six, left, read⟩ := readTail_succ read
    obtain ⟨y, rest, six', left', read⟩ := readTail_succ read
    cases read
    grind
  · obtain ⟨x, rest, -, left, read⟩ := readTail_succ read
    obtain ⟨y, rest, -, left', read⟩ := readTail_succ read
    obtain ⟨z, rest, -, left'', read⟩ := readTail_succ read
    cases read
    grind

/-- The octets that stretches take up as characters. -/
def weight : List Stretch → Nat
  | [] => 0
  | .char c :: earlier => (utf8EncodeChar c).length + weight earlier
  | .fault _ :: earlier => weight earlier

theorem collect_error_ne_ok (fault : Utf8Fault) (stretches : List Stretch) (text : List Char) :
    collect stretches (.error fault) ≠ .ok text := by
  induction stretches generalizing fault with
  | nil => exact nofun
  | cons stretch earlier ih =>
    cases stretch with
    | char _ => exact ih fault
    | fault other => exact ih other

theorem length_of_collect {stretches : List Stretch} {found text : List Char}
    (read : collect stretches (.ok found) = .ok text) :
    (text.flatMap utf8EncodeChar).length =
      weight stretches + (found.flatMap utf8EncodeChar).length := by
  induction stretches generalizing found with
  | nil =>
    cases read
    exact (Nat.zero_add _).symm
  | cons stretch earlier ih =>
    cases stretch with
    | char c =>
      rw [ih read, weight, List.flatMap_cons, List.length_append]
      omega
    | fault fault => exact absurd read (collect_error_ne_ok fault earlier text)

theorem weight_scan_le (index : Nat) (seen : List Stretch) (bytes : Bytes) :
    weight (scan index seen bytes) ≤ bytes.length + weight seen := by
  fun_induction scan index seen bytes with
  | case1 index seen => exact Nat.le_add_left _ _
  | case2 index seen octet rest code length read ih =>
    obtain ⟨short, some_octet, within⟩ := length_le_of_readChar read
    rw [weight, List.length_drop] at ih
    rw [List.length_cons]
    omega
  | case3 index seen octet rest length read ih =>
    rw [weight, List.length_drop] at ih
    rw [List.length_cons]
    omega
  | case4 index seen octet rest read =>
    rw [weight]
    exact Nat.le_add_left _ _

/-- **No text is longer than the octets it was read from.** -/
theorem length_encode_le {bytes : Bytes} {text : String} (read : decode bytes = .ok text) :
    (encode text).length ≤ bytes.length := by
  unfold decode at read
  rcases collected : collect (scan 0 [] bytes) (.ok []) with fault | characters <;>
    rw [collected] at read
  · cases read
  · obtain rfl := Except.ok.inj read
    have size := length_of_collect collected
    have most := weight_scan_le 0 [] bytes
    rw [encode, String.toList_ofList, size]
    exact most

/-! ## Order -/

/-- Octets are compared first octet first. -/
theorem ofNat_cons_lt {a b : Nat} {first second : Bytes} (octet : b < 256) (le : a ≤ b)
    (further : a = b → first < second) : UInt8.ofNat a :: first < UInt8.ofNat b :: second := by
  rw [List.cons_lt_cons_iff]
  rcases Nat.lt_or_eq_of_le le with lt | rfl
  · refine .inl ?_
    rwa [UInt8.lt_iff_toNat_lt, toNat_ofNat_of_lt octet, toNat_ofNat_of_lt (Nat.lt_trans lt octet)]
  · exact .inr ⟨rfl, further rfl⟩

theorem ofNat_cons_lt_of_lt {a b : Nat} (first second : Bytes) (octet : b < 256) (lt : a < b) :
    UInt8.ofNat a :: first < UInt8.ofNat b :: second :=
  ofNat_cons_lt octet (Nat.le_of_lt lt) fun same => absurd same (Nat.ne_of_lt lt)

/-- **A smaller character has smaller octets**, whatever follows.  The lead octet shows how many
there are; of as many, the first one that differs carries the highest bits that do. -/
theorem encodeChar_lt {c d : Char} (h : c < d) (first second : Bytes) :
    utf8EncodeChar c ++ first < utf8EncodeChar d ++ second := by
  have less : c.val.toNat < d.val.toNat := h
  have valid : d.val.toNat < 0xD800 ∨ 0xDFFF < d.val.toNat ∧ d.val.toNat < 0x110000 := d.valid
  have bound : d.val.toNat < 0x110000 := by omega
  unfold utf8EncodeChar
  generalize c.val.toNat = v at less
  generalize d.val.toNat = w at less bound
  simp only
  by_cases one : v ≤ 0x7F
  · rw [if_pos one]
    repeat' split
    all_goals exact ofNat_cons_lt_of_lt _ _ (by omega) (by omega)
  rw [if_neg one, if_neg (show ¬w ≤ 0x7F by omega)]
  by_cases two : v ≤ 0x7FF
  · rw [if_pos two]
    split
    · exact ofNat_cons_lt (by omega) (by omega) fun lead =>
        ofNat_cons_lt_of_lt _ _ (by omega) (by omega)
    · split
      all_goals exact ofNat_cons_lt_of_lt _ _ (by omega) (by omega)
  rw [if_neg two, if_neg (show ¬w ≤ 0x7FF by omega)]
  by_cases three : v ≤ 0xFFFF
  · rw [if_pos three]
    split
    · exact ofNat_cons_lt (by omega) (by omega) fun lead =>
        ofNat_cons_lt (by omega) (by omega) fun next =>
          ofNat_cons_lt_of_lt _ _ (by omega) (by omega)
    · exact ofNat_cons_lt_of_lt _ _ (by omega) (by omega)
  rw [if_neg three, if_neg (show ¬w ≤ 0xFFFF by omega)]
  exact ofNat_cons_lt (by omega) (by omega) fun lead =>
    ofNat_cons_lt (by omega) (by omega) fun next =>
      ofNat_cons_lt (by omega) (by omega) fun third =>
        ofNat_cons_lt_of_lt _ _ (by omega) (by omega)

/-- **The order of texts is the order of their octets.** -/
theorem encode_lt {text other : String} (h : text < other) : encode text < encode other := by
  rw [String.lt_iff] at h
  unfold encode
  generalize text.toList = first at h
  generalize other.toList = second at h
  induction h with
  | @nil c rest =>
    obtain ⟨lead, others, encoded, -⟩ := readChar_encodeChar c []
    rw [List.flatMap_cons, encoded]
    exact List.nil_lt_cons _ _
  | cons further ih =>
    rw [List.flatMap_cons, List.flatMap_cons]
    exact List.append_left_lt ih
  | rel less =>
    rw [List.flatMap_cons, List.flatMap_cons]
    exact encodeChar_lt less _ _

/-- Rows of texts in order are in order by their octets. -/
theorem map_encode_lt {texts others : List String} (h : texts < others) :
    texts.map encode < others.map encode := by
  induction h with
  | nil => exact List.nil_lt_cons _ _
  | cons _ ih => exact List.Lex.cons ih
  | rel less => exact List.Lex.rel (encode_lt less)

end Utf8
end CoverageLink
