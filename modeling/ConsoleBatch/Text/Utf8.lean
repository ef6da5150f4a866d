/-!
Reading bytes as UTF-8 without failing.

Bytes that begin a character but do not finish it are read together as one replacement
character, and so is each byte that can begin none.
-/

namespace ConsoleBatch.Text

def replacement : Char := '\uFFFD'

def followers? (lead : UInt8) : Option Nat :=
  if lead < 0x80 then some 0
  else if lead < 0xC2 then none
  else if lead ≤ 0xDF then some 1
  else if lead ≤ 0xEF then some 2
  else if lead ≤ 0xF4 then some 3
  else none

def isContinuation (byte : UInt8) : Bool :=
  0x80 ≤ byte && byte ≤ 0xBF

/-- Bytes that may follow `lead`: no longer form than needed, no surrogate, and nothing beyond
U+10FFFF. -/
def isSecond (lead second : UInt8) : Bool :=
  if lead == 0xE0 then 0xA0 ≤ second && second ≤ 0xBF
  else if lead == 0xED then 0x80 ≤ second && second ≤ 0x9F
  else if lead == 0xF0 then 0x90 ≤ second && second ≤ 0xBF
  else if lead == 0xF4 then 0x80 ≤ second && second ≤ 0x8F
  else isContinuation second

def continuing (lead : UInt8) (count : Nat) (rest : List UInt8) : List UInt8 :=
  match rest.take count with
  | [] => []
  | second :: more => if isSecond lead second then second :: more.takeWhile isContinuation else []

def leadBits (lead : UInt8) : Nat → Nat
  | 0 => lead.toNat
  | 1 => lead.toNat - 0xC0
  | 2 => lead.toNat - 0xE0
  | _ => lead.toNat - 0xF0

def codePoint (lead : UInt8) (following : List UInt8) : Nat :=
  following.foldl (fun code byte => code * 64 + (byte.toNat - 0x80))
    (leadBits lead following.length)

def readChar (lead : UInt8) (rest : List UInt8) : Char × Nat :=
  match followers? lead with
  | none => (replacement, 0)
  | some count =>
    let following := continuing lead count rest
    if following.length = count then (Char.ofNat (codePoint lead following), count)
    else (replacement, following.length)

/-- Puts the characters of some bytes in front of those already read, the last one first. -/
def decodeOnto (read : List Char) : List UInt8 → List Char
  | [] => read
  | lead :: rest =>
    let (c, taken) := readChar lead rest
    decodeOnto (c :: read) (rest.drop taken)
termination_by bytes => bytes.length

def decodeLossy (bytes : ByteArray) : String :=
  String.ofList (decodeOnto [] bytes.toList).reverse

theorem length_decodeOnto_le (read : List Char) (bytes : List UInt8) :
    (decodeOnto read bytes).length ≤ read.length + bytes.length := by
  fun_induction decodeOnto read bytes with
  | case1 => exact Nat.le_refl _
  | case2 read lead rest c taken _ ih =>
    rw [List.length_cons, List.length_drop] at ih
    rw [List.length_cons]
    omega

theorem length_toList_loop (bytes : ByteArray) (index : Nat) (read : List UInt8) :
    (ByteArray.toList.loop bytes index read).length = read.length + (bytes.size - index) := by
  fun_induction ByteArray.toList.loop bytes index read with
  | case1 index read more ih =>
    rw [ih, List.length_cons]
    omega
  | case2 index read done =>
    rw [List.length_reverse]
    omega

theorem length_decodeLossy_le (bytes : ByteArray) :
    (decodeLossy bytes).toList.length ≤ bytes.size := by
  have decoded := length_decodeOnto_le [] bytes.toList
  have all : bytes.toList.length = [].length + (bytes.size - 0) := length_toList_loop bytes 0 []
  rw [decodeLossy, String.toList_ofList, List.length_reverse]
  simpa [all] using decoded

def decodeStrict? (bytes : ByteArray) : Option String :=
  String.fromUTF8? bytes

end ConsoleBatch.Text
