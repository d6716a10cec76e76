import CapabilityGuard.Json.Form
import CapabilityGuard.Key.Source
import CapabilityGuard.Token.Capability
import CapabilityGuard.Token.Credential
import CapabilityGuard.UidSet

/-! The JSON forms of ids, tokens and key sources. Ids of principals, operations and transactions
are bare numbers, byte strings are arrays of numbers, and tokens are records. -/
namespace CapabilityGuard.Json.Form

def uid : Form Uid := hyper.map Uid.mk Uid.value

def txn : Form TxnRef := hyper.map TxnRef.mk TxnRef.number

def operation : Form Operation := word.map Operation.mk Operation.code

def containerId : Form ContainerId := (octets 16).map ContainerId.mk ContainerId.octets

def mac : Form Mac := (octets 32).map Mac.mk Mac.octets

def uidSet : Form UidSet := (list uid).map UidSet.mk UidSet.members

def credentialData : Form CredentialData where
  read value := do
    let [some u, some c] ← fields? ["uid", "context"] value | none
    return ⟨← uid.read u, ← (octets 24).read c⟩
  write data := record [("uid", uid.write data.uid), ("context", (octets 24).write data.context)]

def capabilityData : Form CapabilityData where
  read value := do
    let [some c, some o, some h] ← fields? ["cid", "op", "holder"] value | none
    return ⟨← containerId.read c, ← operation.read o, ← uid.read h⟩
  write data := record [("cid", containerId.write data.cid), ("op", operation.write data.op),
    ("holder", uid.write data.holder)]

def credential : Form Credential where
  read value := do
    let [some d, some m] ← fields? ["data", "mac"] value | none
    return ⟨← credentialData.read d, ← mac.read m⟩
  write cred := record [("data", credentialData.write cred.data), ("mac", mac.write cred.mac)]

def capability : Form Capability where
  read value := do
    let [some d, some m] ← fields? ["data", "mac"] value | none
    return ⟨← capabilityData.read d, ← mac.read m⟩
  write cap := record [("data", capabilityData.write cap.data), ("mac", mac.write cap.mac)]

/-- A name, or an object with the name as its only key and null as its value. -/
def keySource : Form KeySource where
  read
    | .string (some name) => KeySource.ofName? name
    | .object [(some name, .null)] => KeySource.ofName? name
    | _ => none
  write source := quoted source.name

end CapabilityGuard.Json.Form
