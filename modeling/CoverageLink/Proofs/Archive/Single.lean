import CoverageLink.Archive.Directory

/-!
# An archive of one member

Any octets can be the contents of a member and any octets can be its name, so there is an archive for
any of them, and it is read back as what was put into it.

## 1.  Parts of an archive

An archive is read by places.  What is read within the first part of it is read in that part, and
what is read behind that is read in the rest, the first part being counted off.

## 2.  The end

The places where an archive may end are tried from the last one on.  Where an ending does not fit
there is none, so the first place that counts is that of an ending without a comment
(`members?_of_ending`).

## 3.  One member

`Single.octets` puts a member into an archive as it is.  Its records are rows of numbers of two and
four octets; `Single.members?_octets` says that the member is read back.
-/

namespace CoverageLink
namespace Archive

variable {front rest : Bytes}

/-! ## 1.  Parts of an archive -/

theorem slice?_append_right (front rest : Bytes) (start length : Nat) :
    slice? (front ++ rest).toArray (front.length + start) length =
      slice? rest.toArray start length := by
  have behind : front.length + start + length = front.length + (start + length) := by omega
  have long : front.length + (start + length) - (front.length + start) = length := by omega
  simp [slice?, behind, long]

theorem slice?_append_left {start length : Nat} (within : start + length ≤ front.length) :
    slice? (front ++ rest).toArray start length = slice? front.toArray start length := by
  have room : start + length ≤ front.length + rest.length := by omega
  have first : (front ++ rest).drop start = front.drop start ++ rest :=
    List.drop_append_of_le_length (by omega)
  have whole : length ≤ (front.drop start).length := by rw [List.length_drop]; omega
  simp [slice?, within, room, first, List.take_append_of_le_length whole]

/-- What stands between two parts. -/
theorem slice?_between (front bytes rest : Bytes) :
    slice? (front ++ (bytes ++ rest)).toArray front.length bytes.length = some bytes := by
  have behind := slice?_append_right front (bytes ++ rest) 0 bytes.length
  rw [Nat.add_zero] at behind
  rw [behind, slice?_append_left (by omega)]
  simp [slice?]

theorem numberAt?_append_right (front rest : Bytes) (start width : Nat) :
    numberAt? (front ++ rest).toArray (front.length + start) width =
      numberAt? rest.toArray start width := by
  rw [numberAt?, slice?_append_right, numberAt?]

theorem numberAt?_append_left {start width : Nat} (within : start + width ≤ front.length) :
    numberAt? (front ++ rest).toArray start width = numberAt? front.toArray start width := by
  rw [numberAt?, slice?_append_left within, numberAt?]

theorem Mark.stands_append_right (mark : Mark) (front rest : Bytes) (start : Nat) :
    mark.stands (front ++ rest).toArray (front.length + start) =
      mark.stands rest.toArray start := by
  have behind (index : Nat) : (front ++ rest)[front.length + index]? = rest[index]? := by
    rw [List.getElem?_append_right (Nat.le_add_right _ _), Nat.add_sub_cancel_left]
  simp [stands, Nat.add_assoc, behind]

theorem Mark.stands_append_left (mark : Mark) {start : Nat} (within : start + 4 ≤ front.length) :
    mark.stands (front ++ rest).toArray start = mark.stands front.toArray start := by
  have before {index : Nat} (early : index < start + 4) : (front ++ rest)[index]? = front[index]? :=
    List.getElem?_append_left (by omega)
  have room : start + 4 ≤ front.length + rest.length := by omega
  simp [stands, within, room, before]

/-- What a record says is read where it stands. -/
theorem numberAt?_between {bytes : Bytes} (front rest : Bytes) {start width value : Nat}
    (there : numberAt? bytes.toArray start width = some value) :
    numberAt? (front ++ (bytes ++ rest)).toArray (front.length + start) width = some value := by
  have within : start + width ≤ bytes.length := by
    refine Nat.le_of_not_lt fun beyond => ?_
    rw [numberAt?, slice?, List.size_toArray, if_neg (Nat.not_le.2 beyond)] at there
    cases there
  rw [numberAt?_append_right, numberAt?_append_left within, there]

theorem Mark.stands_between {mark : Mark} {bytes : Bytes} (front rest : Bytes)
    (there : mark.stands bytes.toArray 0 = true) :
    mark.stands (front ++ (bytes ++ rest)).toArray front.length = true := by
  have within : 0 + 4 ≤ bytes.length := by
    refine Nat.le_of_not_lt fun beyond => ?_
    rw [stands, List.size_toArray, decide_eq_false (Nat.not_le.2 beyond)] at there
    cases there
  have behind := mark.stands_append_right front (bytes ++ rest) 0
  rw [Nat.add_zero] at behind
  rw [behind, mark.stands_append_left within, there]

/-- A mark that stands where the search begins is found. -/
theorem Mark.findBetween?_of_stands {α : Type} {mark : Mark} {data : Array UInt8} {start stop : Nat}
    {pick : Nat → Option α} {found : α} (room : start + 4 ≤ stop)
    (stands : mark.stands data start = true) (picked : pick start = some found) :
    mark.findBetween? data start stop pick = some found := by
  have some_room : stop - start - 3 = (stop - start - 4) + 1 := by omega
  rw [findBetween?, some_room, search, if_pos stands, picked]

/-! ## 2.  The end -/

/-- The octets of an ending without its comment. -/
def endingLength : Nat := 22

/-- No ending is where there is no room for one. -/
theorem Ending.at?_of_short {data : Array UInt8} {place : Nat}
    (short : data.size < place + endingLength) : Ending.at? data place = none := by
  have missing : numberAt? data (place + 20) 2 = none := by
    have room : ¬place + 20 + 2 ≤ data.size := Nat.not_le.2 short
    rw [numberAt?, slice?, if_neg room, Option.map_none]
  simp [Ending.at?, missing]

/-- **The last place where an ending fits** is the first that is tried. -/
theorem members?_of_ending {bytes : Bytes} {place : Nat} {members : List Member}
    (last : bytes.length = place + endingLength) (stands : Mark.ending.stands bytes.toArray place)
    (read : membersBefore? bytes.toArray place = some members) :
    members? bytes = some (lastOfEachName members) := by
  have behind {other : Nat} (member : other ∈ List.range' (place + 1) 18) :
      membersBefore? bytes.toArray other = none := by
    have later := (List.mem_range'_1.1 member).1
    have none_there : Ending.at? bytes.toArray other = none :=
      Ending.at?_of_short (by rw [List.size_toArray, last]; omega)
    rw [membersBefore?, extentBefore?, none_there]
    rfl
  have places : List.range' 0 (bytes.length - 3) =
      List.range' 0 place ++ (place :: List.range' (place + 1) 18) := by
    have length : bytes.length - 3 = place + 19 := by rw [last, endingLength]; omega
    rw [length, ← List.range'_append_1, Nat.zero_add]
    rfl
  have found : (endings bytes.toArray).findSome? (membersBefore? bytes.toArray) = some members := by
    have later : ((List.range' (place + 1) 18).filter
        (Mark.ending.stands bytes.toArray)).reverse.findSome?
          (membersBefore? bytes.toArray) = none := by
      rw [List.findSome?_eq_none_iff]
      intro other member
      exact behind (List.mem_filter.1 (List.mem_reverse.1 member)).1
    rw [endings, Mark.placesBetween, List.size_toArray, Nat.sub_zero, places, List.filter_append,
      List.filter_cons_of_pos stands, List.reverse_append, List.reverse_cons, List.findSome?_append,
      List.findSome?_append, later]
    simp [read]
  rw [members?, found, Option.map_some]

/-! ## 3.  One member -/

namespace Single

/-- A number of two octets. -/
def word (number : Nat) : Bytes := [UInt8.ofNat number, UInt8.ofNat (number / 0x100)]

/-- A number of four octets. -/
def long (number : Nat) : Bytes := word number ++ word (number / 0x10000)

theorem numberAt?_of_word {data : Array UInt8} {start number : Nat} (small : number < 0x10000)
    (there : slice? data start 2 = some (word number)) : numberAt? data start 2 = some number := by
  rw [numberAt?, there, Option.map_some, Option.some.injEq]
  simp only [word, Bytes.ofLittleEndian, List.foldr_cons, List.foldr_nil, UInt8.toNat_ofNat']
  omega

theorem numberAt?_of_long {data : Array UInt8} {start number : Nat} (small : number < 0x100000000)
    (there : slice? data start 4 = some (long number)) : numberAt? data start 4 = some number := by
  rw [numberAt?, there, Option.map_some, Option.some.injEq]
  simp only [long, word, Bytes.ofLittleEndian, List.cons_append, List.nil_append, List.foldr_cons,
    List.foldr_nil, UInt8.toNat_ofNat']
  omega

/-- The record right before the contents. -/
def contentsRecord (rawName contents : Bytes) : Bytes :=
  [0x50, 0x4B, 3, 4] ++ word 20 ++ word 0 ++ word 0 ++ long 0 ++ long (checksum contents).toNat ++
    long contents.length ++ long contents.length ++ word rawName.length ++ word 0

/-- The description of a member that begins with the archive. -/
def descriptionRecord (rawName contents : Bytes) : Bytes :=
  [0x50, 0x4B, 1, 2] ++ word 20 ++ word 20 ++ word 0 ++ word 0 ++ long 0 ++
    long (checksum contents).toNat ++ long contents.length ++ long contents.length ++
    word rawName.length ++ word 0 ++ word 0 ++ word 0 ++ word 0 ++ long 0 ++ long 0

/-- The ending behind one description, which begins at an offset. -/
def endingRecord (length offset : Nat) : Bytes :=
  [0x50, 0x4B, 5, 6] ++ word 0 ++ word 0 ++ word 1 ++ word 1 ++ long length ++ long offset ++ word 0

/-- What is before the directory. -/
def body (rawName contents : Bytes) : Bytes :=
  contentsRecord rawName contents ++ (rawName ++ contents)

/-- The directory. -/
def directory (rawName contents : Bytes) : Bytes := descriptionRecord rawName contents ++ rawName

/-- An archive of one member, which is not packed and has this name before it is decoded. -/
def octets (rawName contents : Bytes) : Bytes :=
  body rawName contents ++ directory rawName contents ++
    endingRecord (directory rawName contents).length (body rawName contents).length

variable {rawName contents : Bytes}

theorem length_word (number : Nat) : (word number).length = 2 := rfl

theorem length_long (number : Nat) : (long number).length = 4 := rfl

theorem length_contentsRecord : (contentsRecord rawName contents).length = 30 := by
  simp [contentsRecord, length_word, length_long]

theorem length_body : (body rawName contents).length = 30 + rawName.length + contents.length := by
  rw [body, List.length_append, List.length_append, length_contentsRecord, Nat.add_assoc]

theorem length_descriptionRecord : (descriptionRecord rawName contents).length = 46 := by
  simp [descriptionRecord, length_word, length_long]

theorem length_endingRecord (length offset : Nat) :
    (endingRecord length offset).length = endingLength := by
  simp [endingRecord, length_word, length_long, endingLength]

/-- **The description is read** wherever it stands. -/
theorem at?_descriptionRecord (named : rawName.length < 0x10000)
    (fits : contents.length < 0x100000000) (front rest : Bytes) :
    Description.at? (front ++ (descriptionRecord rawName contents ++ (rawName ++ rest))).toArray
        front.length =
      some (⟨0, 0, (checksum contents).toNat, contents.length, contents.length, rawName,
        Codepage.decode rawName, Codepage.decode [], 0, false⟩,
        front.length + 46 + rawName.length) := by
  have number {start width value : Nat}
      (there : numberAt? (descriptionRecord rawName contents).toArray start width = some value) :=
    numberAt?_between front (rawName ++ rest) there
  have marked : Mark.description.stands (descriptionRecord rawName contents).toArray 0 = true := by
    simp [descriptionRecord, Mark.stands, Mark.octets]
  have flags : numberAt? (descriptionRecord rawName contents).toArray 8 2 = some 0 :=
    numberAt?_of_word (by decide) (by simp [slice?, descriptionRecord, word, long])
  have method : numberAt? (descriptionRecord rawName contents).toArray 10 2 = some 0 :=
    numberAt?_of_word (by decide) (by simp [slice?, descriptionRecord, word, long])
  have sum : numberAt? (descriptionRecord rawName contents).toArray 16 4 =
      some (checksum contents).toNat :=
    numberAt?_of_long (checksum contents).toNat_lt (by simp [slice?, descriptionRecord, word, long])
  have packed : numberAt? (descriptionRecord rawName contents).toArray 20 4 =
      some contents.length :=
    numberAt?_of_long fits (by simp [slice?, descriptionRecord, word, long])
  have size : numberAt? (descriptionRecord rawName contents).toArray 24 4 = some contents.length :=
    numberAt?_of_long fits (by simp [slice?, descriptionRecord, word, long])
  have length : numberAt? (descriptionRecord rawName contents).toArray 28 2 =
      some rawName.length :=
    numberAt?_of_word named (by simp [slice?, descriptionRecord, word, long])
  have fields : numberAt? (descriptionRecord rawName contents).toArray 30 2 = some 0 :=
    numberAt?_of_word (by decide) (by simp [slice?, descriptionRecord, word, long])
  have comment : numberAt? (descriptionRecord rawName contents).toArray 32 2 = some 0 :=
    numberAt?_of_word (by decide) (by simp [slice?, descriptionRecord, word, long])
  have offset : numberAt? (descriptionRecord rawName contents).toArray 42 4 = some 0 :=
    numberAt?_of_long (by decide) (by simp [slice?, descriptionRecord, word, long])
  have name : slice? (front ++ (descriptionRecord rawName contents ++ (rawName ++ rest))).toArray
      (front.length + 46) rawName.length = some rawName := by
    have between := slice?_between (front ++ descriptionRecord rawName contents) rawName rest
    rwa [List.append_assoc, List.length_append, length_descriptionRecord] at between
  have nothing : slice? (front ++ (descriptionRecord rawName contents ++ (rawName ++ rest))).toArray
      (front.length + 46 + rawName.length) 0 = some [] := by
    have behind := slice?_between (front ++ (descriptionRecord rawName contents ++ rawName)) [] rest
    rwa [List.nil_append, List.append_assoc, List.append_assoc, List.length_append,
      List.length_append, length_descriptionRecord, ← Nat.add_assoc] at behind
  unfold Description.at?
  simp only [Mark.stands_between front (rawName ++ rest) marked, number flags, number method,
    number sum, number packed, number size, number length, number fields, number comment,
    number offset]
  simp [name, nothing, Description.cipherMethod]

theorem stands_endingRecord (length offset : Nat) (front : Bytes) :
    Mark.ending.stands (front ++ endingRecord length offset).toArray front.length = true := by
  have marked : Mark.ending.stands (endingRecord length offset).toArray 0 = true := by
    simp [endingRecord, Mark.stands, Mark.octets]
  have behind := Mark.stands_between front [] marked
  rwa [List.append_nil] at behind

/-- **The ending is read.** -/
theorem at?_endingRecord (length : Nat) {offset : Nat} (small : offset < 0x100000000)
    (front : Bytes) :
    Ending.at? (front ++ endingRecord length offset).toArray front.length =
      some ⟨front.length, 0, 0, 1, 1, offset⟩ := by
  have number {start width value : Nat}
      (there : numberAt? (endingRecord length offset).toArray start width = some value) :
      numberAt? (front ++ endingRecord length offset).toArray (front.length + start) width =
        some value := by
    rw [numberAt?_append_right, there]
  have disk : numberAt? (endingRecord length offset).toArray 4 2 = some 0 :=
    numberAt?_of_word (by decide) (by simp [slice?, endingRecord, word, long])
  have directoryDisk : numberAt? (endingRecord length offset).toArray 6 2 = some 0 :=
    numberAt?_of_word (by decide) (by simp [slice?, endingRecord, word, long])
  have countHere : numberAt? (endingRecord length offset).toArray 8 2 = some 1 :=
    numberAt?_of_word (by decide) (by simp [slice?, endingRecord, word, long])
  have count : numberAt? (endingRecord length offset).toArray 10 2 = some 1 :=
    numberAt?_of_word (by decide) (by simp [slice?, endingRecord, word, long])
  have start : numberAt? (endingRecord length offset).toArray 16 4 = some offset :=
    numberAt?_of_long small (by simp [slice?, endingRecord, word, long])
  have comment : numberAt? (endingRecord length offset).toArray 20 2 = some 0 :=
    numberAt?_of_word (by decide) (by simp [slice?, endingRecord, word, long])
  unfold Ending.at?
  simp only [stands_endingRecord, number disk, number directoryDisk, number countHere,
    number count, number start, number comment]
  simp [length_endingRecord, endingLength]

/-- The contents are where the record in front of them says. -/
theorem contentsStart?_body (named : rawName.length < 0x10000) (rest : Bytes) :
    contentsStart? (body rawName contents ++ rest).toArray 0 = some (30 + rawName.length) := by
  have length : numberAt? (contentsRecord rawName contents).toArray 26 2 = some rawName.length :=
    numberAt?_of_word named (by simp [slice?, contentsRecord, word, long])
  have fields : numberAt? (contentsRecord rawName contents).toArray 28 2 = some 0 :=
    numberAt?_of_word (by decide) (by simp [slice?, contentsRecord, word, long])
  have marked : Mark.contents.stands (contentsRecord rawName contents).toArray 0 = true := by
    simp [contentsRecord, Mark.stands, Mark.octets]
  have length_there := numberAt?_between [] (rawName ++ (contents ++ rest)) length
  have fields_there := numberAt?_between [] (rawName ++ (contents ++ rest)) fields
  have marked_there := Mark.stands_between [] (rawName ++ (contents ++ rest)) marked
  simp only [List.nil_append, List.length_nil, Nat.zero_add] at length_there fields_there marked_there
  unfold contentsStart?
  rw [body, List.append_assoc, List.append_assoc]
  simp [length_there, fields_there, marked_there]

/-- The directory begins behind the contents. -/
theorem extentBefore?_octets (fits : (body rawName contents).length < 0xFFFFFFFF) :
    extentBefore? (octets rawName contents).toArray
        (body rawName contents ++ directory rawName contents).length =
      some ⟨(body rawName contents).length, 0, 1⟩ := by
  have small : (body rawName contents).length < 0x100000000 := by omega
  have ending := at?_endingRecord (directory rawName contents).length small
    (body rawName contents ++ directory rawName contents)
  have near : ¬(body rawName contents).length = 0xFFFFFFFF := Nat.ne_of_lt fits
  have marked : Mark.description.stands (descriptionRecord rawName contents).toArray 0 = true := by
    simp [descriptionRecord, Mark.stands, Mark.octets]
  have first : Mark.description.stands (octets rawName contents).toArray
      (body rawName contents).length = true := by
    rw [octets, directory, List.append_assoc, List.append_assoc]
    exact Mark.stands_between _ _ marked
  have room : (body rawName contents).length + 4 ≤
      (body rawName contents ++ directory rawName contents).length := by
    rw [directory, List.length_append, List.length_append, length_descriptionRecord]
    omega
  rw [← octets] at ending
  -- no number asks for a wide ending
  have plain : Locator.before? (octets rawName contents).toArray
      ⟨(body rawName contents ++ directory rawName contents).length, 0, 0, 1, 1,
        (body rawName contents).length⟩ = none := by
    simp [Locator.before?, Ending.overflows, near]
  have led : Ending.extent? (octets rawName contents).toArray
      ⟨(body rawName contents ++ directory rawName contents).length, 0, 0, 1, 1,
        (body rawName contents).length⟩ = some ⟨(body rawName contents).length, 0, 1⟩ := by
    rw [Ending.extent?, if_neg (by simp), if_neg (by simp)]
    exact Mark.findBetween?_of_stands room first (by simp)
  rw [extentBefore?, ending]
  simp only [Option.bind_eq_bind, Option.bind_some, plain, led]

/-- The description leads to the member. -/
theorem memberOf?_octets (named : rawName.length < 0x10000) :
    memberOf? (octets rawName contents).toArray ⟨(body rawName contents).length, 0, 1⟩
        ⟨0, 0, (checksum contents).toNat, contents.length, contents.length, rawName,
          Codepage.decode rawName, Codepage.decode [], 0, false⟩ =
      some (.ofContents (Codepage.decode rawName) contents) := by
  have begun : ¬(body rawName contents).length ≤ 0 := by
    rw [length_body]
    omega
  have start : contentsStart? (octets rawName contents).toArray 0 = some (30 + rawName.length) := by
    rw [octets, List.append_assoc]
    exact contentsStart?_body named _
  have split : octets rawName contents = contentsRecord rawName contents ++ rawName ++
      (contents ++ (directory rawName contents ++
        endingRecord (directory rawName contents).length (body rawName contents).length)) := by
    simp only [octets, body, List.append_assoc]
  have held : ((octets rawName contents).drop (30 + rawName.length)).take contents.length =
      contents := by
    have before : (contentsRecord rawName contents ++ rawName).length = 30 + rawName.length := by
      rw [List.length_append, length_contentsRecord]
    rw [split, List.drop_left' before, List.take_left]
  simp [memberOf?, begun, start, held, Member.ofContents, Packing.ofMethod]

/-- **An archive of one member is read back.** -/
theorem members?_octets (named : rawName.length < 0x10000)
    (fits : (body rawName contents).length < 0xFFFFFFFF) :
    members? (octets rawName contents) =
      some [.ofContents (Codepage.decode rawName) contents] := by
  have last : (octets rawName contents).length =
      (body rawName contents ++ directory rawName contents).length + endingLength := by
    rw [octets, List.length_append, length_endingRecord]
  have small : contents.length < 0x100000000 := by
    rw [length_body] at fits
    omega
  have described : Description.at? (octets rawName contents).toArray (body rawName contents).length =
      some (⟨0, 0, (checksum contents).toNat, contents.length, contents.length, rawName,
        Codepage.decode rawName, Codepage.decode [], 0, false⟩,
        (body rawName contents).length + 46 + rawName.length) := by
    rw [octets, directory, List.append_assoc, List.append_assoc]
    exact at?_descriptionRecord named small _ _
  have read : membersBefore? (octets rawName contents).toArray
      (body rawName contents ++ directory rawName contents).length =
        some [.ofContents (Codepage.decode rawName) contents] := by
    rw [membersBefore?, extentBefore?_octets fits]
    simp [membersFrom?, described, memberOf?_octets named]
  exact members?_of_ending last (stands_endingRecord _ _ _) read

end Single
end Archive
end CoverageLink
