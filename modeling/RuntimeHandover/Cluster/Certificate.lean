import RuntimeHandover.Text.Armor

/-! The certificates that a cluster's answers are checked against. -/
namespace RuntimeHandover.Cluster
open Text

abbrev Certificate := List UInt8

namespace Certificate

inductive Flaw where
  | encoding
  | signedOtherwise
  | repeatedExtension
  | unknownCritical
  deriving DecidableEq, Repr

def Flaw.message : Flaw → String
  | .encoding => "BadEncoding"
  | .signedOtherwise => "Other(OtherError(SignatureAlgorithmMismatch))"
  | .repeatedExtension => "Other(OtherError(ExtensionValueInvalid))"
  | .unknownCritical => "Other(OtherError(UnsupportedCriticalExtension))"

inductive Tag where
  | boolean
  | integer
  | bits
  | octets
  | identifier
  | sequence
  | version
  | extensions
  deriving DecidableEq, Repr

def Tag.byte : Tag → UInt8
  | .boolean => 0x01
  | .integer => 0x02
  | .bits => 0x03
  | .octets => 0x04
  | .identifier => 0x06
  | .sequence => 0x30
  | .version => 0xA0
  | .extensions => 0xA3

def sizeLimit : Nat := 0xFFFF

def readLength : List UInt8 → Except Flaw (Nat × List UInt8)
  | 0x81 :: a :: rest => if a < 0x80 then .error .encoding else .ok (a.toNat, rest)
  | 0x82 :: a :: b :: rest =>
    if a = 0 then .error .encoding else .ok (a.toNat * 256 + b.toNat, rest)
  | length :: rest => if length < 0x80 then .ok (length.toNat, rest) else .error .encoding
  | [] => .error .encoding

def piece (tag : Tag) : List UInt8 → Except Flaw (List UInt8 × List UInt8)
  | first :: rest => do
    let (length, rest) ← readLength rest
    if first ≠ tag.byte ∨ length ≥ sizeLimit ∨ rest.length < length then throw .encoding
    .ok (rest.take length, rest.drop length)
  | [] => .error .encoding

def only (tag : Tag) (bytes : List UInt8) : Except Flaw (List UInt8) := do
  let (contents, rest) ← piece tag bytes
  if rest.isEmpty then .ok contents else .error .encoding

structure Extension where
  identifier : List UInt8
  critical : Bool
  value : List UInt8

def readExtension (bytes : List UInt8) : Except Flaw (Extension × List UInt8) := do
  let (identifier, rest) ← piece .identifier bytes
  let (critical, rest) ← if rest.head? = some Tag.boolean.byte then do
      match ← piece .boolean rest with
      | ([0xFF], rest) => .ok (true, rest)
      | ([0x00], rest) => .ok (false, rest)
      | _ => .error .encoding
    else .ok (false, rest)
  let (value, rest) ← piece .octets rest
  .ok (⟨identifier, critical, value⟩, rest)

def knownArc : List UInt8 := [0x55, 0x1D]

def keyUse : UInt8 := 15

/-- The extensions that are looked at: the use of a key, other names, whether it may
certify others, for which names, where revocations are found, and for which purposes. -/
def knownExtensions : List UInt8 := [keyUse, 17, 19, 30, 31, 37]

def checkExtension (seen : List UInt8) (extension : Extension) : Except Flaw (List UInt8) :=
  match knownExtensions.find? fun last => extension.identifier = knownArc ++ [last] with
  | none => if extension.critical then .error .unknownCritical else .ok seen
  | some kind => do
    if seen.contains kind then throw .repeatedExtension
    if kind ≠ keyUse then discard (only .sequence extension.value)
    .ok (kind :: seen)

def checkExtensions (seen : List UInt8) : Nat → List UInt8 → Except Flaw Unit
  | _, [] => .ok ()
  | 0, _ => .ok ()
  | most + 1, bytes => do
    let (contents, rest) ← piece .sequence bytes
    let (extension, after) ← readExtension contents
    let seen ← checkExtension seen extension
    if !after.isEmpty then throw .encoding
    checkExtensions seen most rest

def readCertified (bytes : List UInt8) : Except Flaw (List UInt8 × List UInt8) := do
  let (_, rest) ← piece .integer bytes
  let (method, rest) ← piece .sequence rest
  let (_, rest) ← piece .sequence rest
  let (_, rest) ← piece .sequence rest
  let (_, rest) ← piece .sequence rest
  let (_, rest) ← piece .sequence rest
  .ok (method, rest)

/-- Whether bytes are a certificate: what is certified, how it is signed, and the
signature. One of the first version has no version and no extensions, any other is of
the third. -/
def check (certificate : Certificate) : Except Flaw Unit := do
  let (certified, rest) ← piece .sequence (← only .sequence certificate)
  let (method, rest) ← piece .sequence rest
  if (← only .bits rest).head? ≠ some 0 then throw .encoding
  if certified.head? = some Tag.version.byte then
    let (version, rest) ← piece .version certified
    if (← only .integer version) ≠ [2] then throw .encoding
    let (stated, rest) ← readCertified rest
    if stated ≠ method then throw .signedOtherwise
    if !rest.isEmpty then
      let (tagged, after) ← piece .extensions rest
      let (extensions, afterAll) ← piece .sequence tagged
      checkExtensions [] extensions.length extensions
      if !(after ++ afterAll).isEmpty then throw .encoding
  else
    let (_, rest) ← readCertified certified
    if !rest.isEmpty then throw .encoding

def label : String := "CERTIFICATE"

def bundle (text : String) : Except Armor.Fault (List Certificate) := do
  let blocks ← Armor.blocks text.toList
  .ok ((blocks.filter fun block => block.label = label).map (·.contents))

end Certificate

end RuntimeHandover.Cluster
