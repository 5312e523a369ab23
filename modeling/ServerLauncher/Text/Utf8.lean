/-!
This module contains the two ways in which bytes are read as text: `Utf8.decode?` insists on well
formed UTF-8, `Utf8.decodeLossy` puts a replacement character in the place of what is not.
-/

namespace ServerLauncher.Utf8

/--
The character U+FFFD, which stands for bytes that are not text.
-/
def replacement : Char := '\uFFFD'

/--
The bytes that may follow the lead byte of a sequence in its second place, and the number of places
that come after the lead byte. `none` for a byte that leads no sequence.
-/
def sequenceShape (lead : UInt8) : Option (UInt8 × UInt8 × Nat) :=
  if lead < 0x80 then some (0x80, 0xbf, 0)
  else if lead < 0xc2 then none
  else if lead < 0xe0 then some (0x80, 0xbf, 1)
  else if lead = 0xe0 then some (0xa0, 0xbf, 2)
  else if lead = 0xed then some (0x80, 0x9f, 2)
  else if lead < 0xf0 then some (0x80, 0xbf, 2)
  else if lead = 0xf0 then some (0x90, 0xbf, 3)
  else if lead < 0xf4 then some (0x80, 0xbf, 3)
  else if lead = 0xf4 then some (0x80, 0x8f, 3)
  else none

/--
The bits that a lead byte contributes to the code point when `places` bytes follow it.
-/
def leadBits (lead : UInt8) (places : Nat) : Nat :=
  match places with
  | 0 => lead.toNat
  | 1 => lead.toNat % 32
  | 2 => lead.toNat % 16
  | _ => lead.toNat % 8

/--
Read the bytes that follow a lead byte: the first of them between `low` and `high`, the others
continuation bytes. The code point so far is `value`. The result is the code point, if all of them
are there, and the bytes that have not been read.
-/
def readRest (low high : UInt8) (places : Nat) (value : Nat) (bytes : List UInt8) :
    Option Nat × List UInt8 :=
  match places, bytes with
  | 0, bytes => (some value, bytes)
  | _ + 1, [] => (none, [])
  | places + 1, b :: rest =>
    if low ≤ b && b ≤ high then
      readRest 0x80 0xbf places (value * 64 + b.toNat % 64) rest
    else
      (none, b :: rest)

theorem length_readRest_le (low high : UInt8) (places value : Nat) (bytes : List UInt8) :
    (readRest low high places value bytes).2.length ≤ bytes.length := by
  fun_induction readRest low high places value bytes with
  | case1 => exact Nat.le_refl _
  | case2 => exact Nat.le_refl _
  | case3 _ _ _ _ _ _ _ ih => exact Nat.le_succ_of_le ih
  | case4 => exact Nat.le_refl _

/--
Read bytes as text. Every longest part that starts like a sequence and does not go on like one, and
every byte that starts none, becomes one replacement character.
-/
def decodeChars (bytes : List UInt8) : List Char :=
  match bytes with
  | [] => []
  | lead :: rest =>
    match sequenceShape lead with
    | none => replacement :: decodeChars rest
    | some (low, high, places) =>
      let decoded := readRest low high places (leadBits lead places) rest
      (decoded.1.map Char.ofNat).getD replacement :: decodeChars decoded.2
termination_by bytes.length
decreasing_by
  · exact Nat.lt_succ_self rest.length
  · exact Nat.lt_succ_of_le (length_readRest_le ..)

/--
The text of bytes that need not be well formed.
-/
def decodeLossy (bytes : ByteArray) : String :=
  match String.fromUTF8? bytes with
  | some text => text
  | none => String.ofList (decodeChars bytes.data.toList)

/--
The text of well formed bytes.
-/
def decode? (bytes : ByteArray) : Option String :=
  String.fromUTF8? bytes

theorem decode?_toUTF8 (text : String) : decode? text.toUTF8 = some text :=
  dif_pos text.isValidUTF8

theorem decodeLossy_of_decode? {bytes : ByteArray} {text : String} (h : decode? bytes = some text) :
    decodeLossy bytes = text := by
  simp only [decode?] at h
  simp [decodeLossy, h]

end ServerLauncher.Utf8
