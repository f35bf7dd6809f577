import RuntimeHandover.Json.Typed
import RuntimeHandover.Text.Base64
import RuntimeHandover.Text.Timestamp

/-! What the cluster's API answers: a report of what went wrong, or the object that
was made. Of the object only its shape matters. -/
namespace RuntimeHandover.Cluster
open Json Text

structure Refusal where
  status : String
  message : String
  reason : String
  code : Nat
  deriving DecidableEq, Repr

def Refusal.shown (refusal : Refusal) : String :=
  "ErrorResponse \x7b status: " ++ quoted refusal.status ++
  ", message: " ++ quoted refusal.message ++
  ", reason: " ++ quoted refusal.reason ++
  s!", code: {refusal.code} \x7d"

structure Report where
  status : Option String := none
  message : String := ""
  reason : String := ""
  code : Option Nat := none

def largestCode : Nat := 0xFFFF

def reportFields : List (FieldReader Report) :=
  let text := readText "a string"
  [.of "status" text fun v report => {report with status := some v},
    .of "message" text fun v report => {report with message := v},
    .of "reason" text fun v report => {report with reason := v},
    .of "code" readNat64 fun v report => {report with code := some v}]

def Refusal.parse? (text : String) : Option Refusal := do
  let report ← (document (readStructure "ErrorResponse" reportFields {}) (symbolsOf text)).toOption
  let status ← report.status
  let code ← report.code
  if code > largestCode then none
  some ⟨status, report.message, report.reason, code⟩

namespace Shape

def readMembers (fields : List (FieldReader Unit)) (depth : Nat) :
    Nat → Bool → List Symbol → Except Stop (Taken Unit)
  | 0, _, input => .error (.next .endInObject input)
  | fuel + 1, first, input => do
    match ← nextKey first input with
    | (none, left) => .ok ((), left)
    | (some key, left) =>
      let left ← readColon left
      match fields.find? (·.name == key) with
      | none => readMembers fields depth fuel false (← skipValue left)
      | some field =>
        let (_, left) ← field.read depth left
        readMembers fields depth fuel false left

/-- An object with fields of known shape. Fields may come again, and an array does
not stand for it. -/
def objectOf (name : String) (fields : List (FieldReader Unit)) : Reader Unit := fun depth input =>
  match skipSpace input with
  | [] => .error (.next .endInValue [])
  | .char '[' :: rest =>
    if depth ≤ 1 then .error (.next .tooDeep (.char '[' :: rest))
    else closed endItems (.error ⟨.mismatch .sequence name, .pending rest⟩)
  | .char '\x7b' :: rest =>
    if depth ≤ 1 then .error (.next .tooDeep (.char '\x7b' :: rest))
    else closed endMembers (readMembers fields (depth - 1) (steps rest) true rest)
  | rest => .error (mismatch name rest)

def field {α : Type} (name : String) (read : Reader α) : FieldReader Unit :=
  .of name (readOption read) fun _ => id

def fixed (name text : String) : FieldReader Unit where
  name := name
  read depth input := do
    let (found, left) ← readText "a string" depth input
    if found = text then .ok (id, left)
    else .error ⟨.unfit (.string found) text, .pending left⟩

def mapOf {α : Type} (read : Reader α) : Reader Unit := fun depth input =>
  match skipSpace input with
  | [] => .error (.next .endInValue [])
  | .char '\x7b' :: rest =>
    if depth ≤ 1 then .error (.next .tooDeep (.char '\x7b' :: rest))
    else closed endMembers (entries (depth - 1) (steps rest) true rest)
  | rest => .error (mismatch "a map" rest)
where
  entries (depth : Nat) : Nat → Bool → List Symbol → Except Stop (Taken Unit)
    | 0, _, input => .error (.next .endInObject input)
    | fuel + 1, first, input => do
      match ← nextKey first input with
      | (none, left) => .ok ((), left)
      | (some _, left) =>
        let (_, left) ← read depth (← readColon left)
        entries depth fuel false left

def checkedText {ε : Type} (expected : String) (check : String → Except ε Unit)
    (message : ε → String) : Reader Unit := fun depth input => do
  let (text, left) ← readText expected depth input
  match check text with
  | .ok () => .ok ((), left)
  | .error flaw => .error (.here (.stated (message flaw)) left)

def binary : Reader Unit :=
  checkedText "base64-encoded string" (fun text => (Base64.decode (bytesOf text)).map fun _ => ())
    Base64.Flaw.message

def timestamp : Reader Unit :=
  checkedText "an RFC 3339 formatted date and time string" (fun text => Timestamp.read text.toList)
    Timestamp.Fault.message

def readInt64 : Reader Unit := fun _ input =>
  let expected := "i64"
  match skipSpace input with
  | [] => .error (.next .endInValue [])
  | symbol :: rest =>
    if startsNumber symbol then do
      match ← machineNumber (symbol :: rest) with
      | (.natural n, left) =>
        if n < signedLimit then .ok ((), left)
        else .error (.here (.unfit (.integer (toString n)) expected) left)
      | (.negative _, left) => .ok ((), left)
      | (.floating x, left) => .error (.here (.mismatch (.floating (floating x)) expected) left)
    else .error (mismatch expected (symbol :: rest))

def text : Reader String := readText "a string"

def textMap : Reader Unit := mapOf text

def owner : Reader Unit := objectOf "OwnerReference" [
  field "apiVersion" text, field "blockOwnerDeletion" readBool, field "controller" readBool,
  field "kind" text, field "name" text, field "uid" text]

def managed : Reader Unit := objectOf "ManagedFieldsEntry" [
  field "apiVersion" text, field "fieldsType" text, field "fieldsV1" value,
  field "manager" text, field "operation" text, field "subresource" text,
  field "time" timestamp]

def metadata : Reader Unit := objectOf "ObjectMeta" [
  field "annotations" textMap, field "creationTimestamp" timestamp,
  field "deletionGracePeriodSeconds" readInt64, field "deletionTimestamp" timestamp,
  field "finalizers" (readList text), field "generateName" text,
  field "generation" readInt64, field "labels" textMap,
  field "managedFields" (readList managed), field "name" text, field "namespace" text,
  field "ownerReferences" (readList owner), field "resourceVersion" text,
  field "selfLink" text, field "uid" text]

def configMap : Reader Unit := objectOf "ConfigMap" [
  fixed "apiVersion" "v1", fixed "kind" "ConfigMap", field "binaryData" (mapOf (readOption binary)),
  field "data" textMap, field "immutable" readBool, field "metadata" metadata]

end Shape

def checkConfigMap (text : String) : Except Fault Unit :=
  document Shape.configMap (symbolsOf text)

end RuntimeHandover.Cluster
