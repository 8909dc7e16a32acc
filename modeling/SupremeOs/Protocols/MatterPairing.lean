import Mathlib.Data.Vector.Defs
import SupremeOs.DomainModel.JsValue

/-!
# Setup codes of Matter devices

The label of a device has a manual pairing code of 11 or 21 digits, the last one
a check digit, or a text after `MT:` in base 38 that stands for packed fields of
bits.  Both give the passcode and a discriminator; the text also has the vendor
and the product, which a manual code has if it is a long one.
-/

namespace SupremeOs.Protocols.MatterPairing

open DomainModel

abbrev Digit := Fin 10

inductive PayloadSource where
  | manual
  | qr
deriving DecidableEq

structure MatterOnboardingPayload where
  discriminator : Nat
  shortDiscriminator : Bool
  passcode : Nat
  vendorId : Option Nat
  productId : Option Nat
  customFlow : Option Nat
  discoveryCapabilities : Option Nat
  source : PayloadSource
deriving DecidableEq

inductive MatterPairingError where
  | notDigits
  | digitCount (got : Nat)
  | checkDigit
  | passcodeField
  | lengthFlag
  | unsupportedVersion (version : Nat)
  | base38Character (char : Char)
  | base38Chunk (length : Nat)
  | forbiddenPasscode
  | passcodeRange
deriving DecidableEq

def MatterPairingError.message : MatterPairingError → String
  | .notDigits => "manual pairing code must be digits"
  | .digitCount got => "manual pairing code must be 11 or 21 digits (got " ++ toString got ++ ")"
  | .checkDigit => "manual pairing code check digit failed"
  | .passcodeField => "manual pairing code passcode field out of range"
  | .lengthFlag => "manual pairing code length disagrees with its VID/PID flag"
  | .unsupportedVersion version => "unsupported QR payload version " ++ toString version
  | .base38Character char => "invalid base-38 character '" ++ toString char ++ "'"
  | .base38Chunk length => "invalid base-38 chunk length " ++ toString length
  | .forbiddenPasscode => "setup passcode is a forbidden trivial value"
  | .passcodeRange => "setup passcode out of range"

def invalidPasscodes : List Nat :=
  [0, 11111111, 22222222, 33333333, 44444444, 55555555, 66666666, 77777777, 88888888, 99999999,
    12345678, 87654321]

def assertPasscode (passcode : Nat) : Except MatterPairingError Unit :=
  if passcode ∈ invalidPasscodes then .error .forbiddenPasscode
  else if passcode < 1 ∨ 0x7ffffff < passcode then .error .passcodeRange
  else .ok ()

def dTable : Vector (Vector Digit 10) 10 :=
  #v[#v[0, 1, 2, 3, 4, 5, 6, 7, 8, 9], #v[1, 2, 3, 4, 0, 6, 7, 8, 9, 5],
    #v[2, 3, 4, 0, 1, 7, 8, 9, 5, 6], #v[3, 4, 0, 1, 2, 8, 9, 5, 6, 7],
    #v[4, 0, 1, 2, 3, 9, 5, 6, 7, 8], #v[5, 9, 8, 7, 6, 0, 4, 3, 2, 1],
    #v[6, 5, 9, 8, 7, 1, 0, 4, 3, 2], #v[7, 6, 5, 9, 8, 2, 1, 0, 4, 3],
    #v[8, 7, 6, 5, 9, 3, 2, 1, 0, 4], #v[9, 8, 7, 6, 5, 4, 3, 2, 1, 0]]

def pTable : Vector (Vector Digit 10) 8 :=
  #v[#v[0, 1, 2, 3, 4, 5, 6, 7, 8, 9], #v[1, 5, 7, 6, 2, 8, 3, 0, 9, 4],
    #v[5, 8, 0, 3, 7, 9, 6, 1, 4, 2], #v[8, 9, 1, 6, 0, 4, 3, 5, 2, 7],
    #v[9, 4, 5, 3, 1, 2, 6, 8, 7, 0], #v[4, 2, 8, 6, 5, 7, 3, 9, 0, 1],
    #v[2, 7, 9, 3, 8, 0, 6, 4, 1, 5], #v[7, 0, 4, 6, 9, 1, 3, 2, 5, 8]]

/-- The loop of `verhoeffValidate`, over the digits from the last one on. -/
def verhoeffLoop : Nat → Digit → List Digit → Digit
  | _, c, [] => c
  | i, c, digit :: rest =>
    verhoeffLoop (i + 1) ((dTable.get c).get ((pTable.get (Fin.ofNat 8 i)).get digit)) rest

def verhoeffValidate (digits : List Digit) : Bool := verhoeffLoop 0 0 digits.reverse = 0

/-- What stands for a digit at a position, counted from the last one on. -/
def permuted (position : Nat) (digit : Digit) : Digit :=
  (pTable.get (Fin.ofNat 8 position)).get digit

def checkDigit (digits : List Digit) : Digit :=
  ((List.finRange 10).find? fun check => verhoeffValidate (digits ++ [check])).getD 0

def fixedDigits : Nat → Nat → List Digit
  | 0, _ => []
  | count + 1, value => Fin.ofNat 10 (value / 10 ^ count) :: fixedDigits count value

/-- `Number(digits)` -/
def numberOf (digits : List Digit) : Nat :=
  digits.foldl (fun (value : Nat) (digit : Digit) => 10 * value + digit.val) 0

def digitOf (char : Char) : Option Digit :=
  if digit : '0'.toNat ≤ char.toNat ∧ char.toNat ≤ '9'.toNat then
    some ⟨char.toNat - '0'.toNat, by
      have last : char.toNat ≤ 57 := digit.2
      have first : '0'.toNat = 48 := rfl
      omega⟩
  else none

/-- The digits of an input without its spaces and dashes, if it has nothing else. -/
def digitsOf (input : String) : Option (List Digit) :=
  (input.toList.filter fun char => !(isStrippedSpace char || char = '-')).mapM digitOf

/-- `digits.slice(from, to)` -/
def slice (first last : Nat) (digits : List Digit) : List Digit :=
  (digits.take last).drop first

/-- What `parseManualPairingCode` makes of the digits. -/
def parseDigits (digits : List Digit) : Except MatterPairingError MatterOnboardingPayload :=
  if digits.length ≠ 11 ∧ digits.length ≠ 21 then .error (.digitCount digits.length)
  else if ¬verhoeffValidate digits then .error .checkDigit
  else
    let chunk1 := numberOf (slice 0 1 digits)
    let chunk2 := numberOf (slice 1 6 digits)
    let chunk3 := numberOf (slice 6 10 digits)
    if 0x1fff < chunk3 then .error .passcodeField
    else
      let hasVidPid := decide (chunk1 &&& 0x04 ≠ 0)
      if hasVidPid ≠ decide (digits.length = 21) then .error .lengthFlag
      else
        let shortDisc := ((chunk1 &&& 0x03) <<< 2) ||| ((chunk2 >>> 14) &&& 0x03)
        let passcode := (chunk2 &&& 0x3fff) ||| ((chunk3 &&& 0x1fff) <<< 14)
        match assertPasscode passcode with
        | .error error => .error error
        | .ok () =>
          .ok
            { discriminator := shortDisc <<< 8, shortDiscriminator := true, passcode := passcode
              vendorId := if hasVidPid then some (numberOf (slice 10 15 digits)) else none
              productId := if hasVidPid then some (numberOf (slice 15 20 digits)) else none
              customFlow := none
              discoveryCapabilities := none
              source := .manual }

def parseManualPairingCode (input : String) : Except MatterPairingError MatterOnboardingPayload :=
  match digitsOf input with
  | none | some [] => .error .notDigits
  | some digits => parseDigits digits

def base38 : List Char :=
  ['0', '1', '2', '3', '4', '5', '6', '7', '8', '9', 'A', 'B', 'C', 'D', 'E', 'F', 'G', 'H', 'I',
    'J', 'K', 'L', 'M', 'N', 'O', 'P', 'Q', 'R', 'S', 'T', 'U', 'V', 'W', 'X', 'Y', 'Z', '-', '.']

/--
`char.toUpperCase()`, as far as it is a part of the alphabet: some letters have
a Latin capital although they are not Latin ones, and a ligature has two.
-/
def toUpperCase (char : Char) : List Char :=
  match char with
  | 'ı' => ['I']
  | 'ſ' => ['S']
  | 'ﬅ' => ['S', 'T']
  | 'ﬆ' => ['S', 'T']
  | char => [char.toUpper]

/-- `alphabet.indexOf(part)` -/
def indexOf (alphabet part : List Char) : Option Nat :=
  (List.range alphabet.length).find? fun i => part.isPrefixOf (alphabet.drop i)

/-- The value of a chunk, its last character being the highest digit. -/
def chunkValue : List Char → Except MatterPairingError Nat
  | [] => .ok 0
  | char :: rest =>
    match chunkValue rest with
    | .error error => .error error
    | .ok value =>
      match indexOf base38 (toUpperCase char) with
      | none => .error (.base38Character char)
      | some digit => .ok (value * 38 + digit)

def lowBytes (count value : Nat) : List Nat :=
  (List.range count).map fun i => (value >>> (8 * i)) &&& 0xff

def lastBytes (chunk : List Char) (value : Nat) : Except MatterPairingError (List Nat) :=
  if chunk.length = 4 then .ok (lowBytes 2 value)
  else if chunk.length = 2 then .ok (lowBytes 1 value)
  else .error (.base38Chunk chunk.length)

def base38Decode : List Char → Except MatterPairingError (List Nat)
  | [] => .ok []
  | a :: b :: c :: d :: e :: rest =>
    match chunkValue [a, b, c, d, e] with
    | .error error => .error error
    | .ok value =>
      match base38Decode rest with
      | .error error => .error error
      | .ok bytes => .ok (lowBytes 3 value ++ bytes)
  | chunk =>
    match chunkValue chunk with
    | .error error => .error error
    | .ok value => lastBytes chunk value

structure BitReader where
  bytes : List Nat
  bit : Nat

namespace BitReader

/-- The bit at a place; there are zeros after the last byte. -/
def bitAt (bytes : List Nat) (place : Nat) : Nat :=
  if place >>> 3 < bytes.length then (bytes.getD (place >>> 3) 0 >>> (place &&& 7)) &&& 1 else 0

def read (reader : BitReader) (count : Nat) : Nat × BitReader :=
  ((List.range count).foldl
      (fun value i => value ||| (bitAt reader.bytes (reader.bit + i) <<< i)) 0,
    { reader with bit := reader.bit + count })

end BitReader

/-- What `parseQrPayload` makes of the bytes. -/
def parseFields (bytes : List Nat) : Except MatterPairingError MatterOnboardingPayload :=
  let reader : BitReader := ⟨bytes, 0⟩
  let (version, reader) := reader.read 3
  if version ≠ 0 then .error (.unsupportedVersion version)
  else
    let (vendorId, reader) := reader.read 16
    let (productId, reader) := reader.read 16
    let (customFlow, reader) := reader.read 2
    let (discoveryCapabilities, reader) := reader.read 8
    let (discriminator, reader) := reader.read 12
    let (passcode, _) := reader.read 27
    match assertPasscode passcode with
    | .error error => .error error
    | .ok () =>
      .ok
        { discriminator := discriminator, shortDiscriminator := false, passcode := passcode
          vendorId := some vendorId
          productId := some productId
          customFlow := some customFlow
          discoveryCapabilities := some discoveryCapabilities
          source := .qr }

def parseQrPayload (input : String) : Except MatterPairingError MatterOnboardingPayload :=
  match base38Decode (input.toList.drop 3) with
  | .error error => .error error
  | .ok bytes => parseFields bytes

/-- Spaces around a code and the case of its start do not count. -/
def parseMatterSetupCode (input : String) : Except MatterPairingError MatterOnboardingPayload :=
  let trimmed := stripSpaces input.toList
  if ['M', 'T', ':'].isPrefixOf (trimmed.flatMap toUpperCase) then
    parseQrPayload (String.ofList trimmed)
  else parseManualPairingCode (String.ofList trimmed)

/-- The device that other implementations are tried on. -/
example : (parseManualPairingCode "3497-011-2332").map (·.passcode) = .ok 20202021 := by
  decide +kernel

example : (parseQrPayload "MT:Y.K9042C00KA0648G00").map (·.passcode) = .ok 20202021 := by
  decide +kernel

end SupremeOs.Protocols.MatterPairing
