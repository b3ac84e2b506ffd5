import Movie.BigEndian

/-!
# Identities and contents of Durable State

The value types of `persistence/model.py`, `persistence/codec.py` and `projection/model.py`; the
checks of their constructors are fields.
-/
namespace Movie.DurableModel

open BigEndian

def utf8 (text:String):List UInt8:=text.toList.flatMap String.utf8EncodeChar

lemma utf8_injective : Function.Injective utf8:=by
 intro a b h
 have hbytes:a.toList.utf8Encode=b.toList.utf8Encode:=congrArg List.toByteArray h
 have hdecode:=congrArg ByteArray.utf8Decode? hbytes
 rw [List.utf8Decode?_utf8Encode,List.utf8Decode?_utf8Encode] at hdecode
 exact String.toList_injective (congrArg Array.toList (Option.some.inj hdecode))

def nul : Char:=Char.ofNat 0

def ValidName (value:String):Prop:=
 value ≠ "" ∧ nul∉value.toList ∧ (utf8 value).length≤512

instance (value:String):Decidable (ValidName value):=
 inferInstanceAs (Decidable (_ ∧ _ ∧ _))

def requireName (value field:String):Except String { name:String // ValidName name }:=
 if hchars:value = "" ∨ nul∈value.toList then
  .error (field ++ " must be a nonempty string without NUL characters")
 else if hsize:512<(utf8 value).length then
  .error (field ++ " must not exceed 512 UTF-8 bytes")
 else
  .ok ⟨value,fun h=>hchars (.inl h),fun h=>hchars (.inr h),Nat.not_lt.mp hsize⟩

structure UUID where
 int:ℕ
 bounded:int<2 ^ 128
 deriving DecidableEq

structure OperationId where
 value:UUID
 deriving DecidableEq

structure PersistenceId where
 entityType:String
 entityId:String
 entityType_valid:ValidName entityType
 entityId_valid:ValidName entityId
 deriving DecidableEq

namespace PersistenceId

def create (entityType entityId:String):Except String PersistenceId:=do
 let entityType ← requireName entityType "Persistence entity type"
 let entityId ← requireName entityId "Persistence entity id"
 return ⟨entityType,entityId,entityType.property,entityId.property⟩

def toText (id:PersistenceId):String:=id.entityType ++ ":" ++ id.entityId

end PersistenceId

structure ProjectionId where
 name:String
 key:String
 name_valid:ValidName name
 key_valid:ValidName key
 deriving DecidableEq

namespace ProjectionId

def create (name key:String):Except String ProjectionId:=do
 let name ← requireName name "Projection name"
 let key ← requireName key "Projection key"
 return ⟨name,key,name.property,key.property⟩

def toText (id:ProjectionId):String:=id.name ++ ":" ++ id.key

end ProjectionId

def persistenceSliceCount : ℕ:=1024

/-- A state manifest: a nonempty string without NUL characters. -/
structure Manifest where
 text:String
 nonempty:text ≠ ""
 nulFree:nul∉text.toList
 deriving DecidableEq

structure EncodedState where
 manifest:Manifest
 payload:List UInt8
 deriving DecidableEq

/-- What one revision holds: the columns `manifest`, `payload` and `deleted`, whose
 table constraint admits exactly these two shapes. -/
inductive Content where
 | live (encoded:EncodedState)
 | tombstone
 deriving DecidableEq

def Content.retainedBytes : Content → ℕ
 | .live encoded=>(utf8 encoded.manifest.text).length+encoded.payload.length
 | .tombstone=>0

/-- Whether `_fingerprint` is defined: `to_bytes(4, "big")` raises for a longer manifest. -/
def Content.Fingerprinted : Content → Prop
 | .live encoded=>(utf8 encoded.manifest.text).length<2 ^ 32
 | .tombstone=>True

instance : DecidablePred Content.Fingerprinted
 | .live _=>Nat.decLt _ _
 | .tombstone=>.isTrue trivial

structure DurableStateRecord where
 persistenceId:PersistenceId
 revision:ℕ
 operationId:OperationId
 content:Content
 deriving DecidableEq

structure WriteResult where
 revision:ℕ
 duplicate:Bool
 deriving DecidableEq

structure DurableStateChange where
 offset:ℕ
 persistenceId:PersistenceId
 revision:ℕ
 operationId:OperationId
 slice:ℕ
 content:Content
 committedAtNs:ℤ
 deriving DecidableEq

structure DurableStateChangeBatch where
 changes:List DurableStateChange
 offset:ℕ
 deriving DecidableEq

section

variable (sha256:List UInt8 → List UInt8)

def persistenceSlice (id:PersistenceId):ℕ:=
 let entityType:=utf8 id.entityType
 let digest:=sha256 (toBytes 2 entityType.length++entityType++utf8 id.entityId)
 ofBytes (digest.take 4) % persistenceSliceCount

def fingerprint : Content → List UInt8
 | .tombstone=>sha256 (utf8 "delete")
 | .live encoded=>
  let manifest:=utf8 encoded.manifest.text
  sha256 (utf8 "upsert" ++ toBytes 4 manifest.length++manifest++encoded.payload)

/-- What `_fingerprint` feeds to the hash. -/
def fingerprintInput : Content → List UInt8
 | .tombstone=>utf8 "delete"
 | .live encoded=>
  utf8 "upsert" ++ (toBytes 4 (utf8 encoded.manifest.text).length ++
   (utf8 encoded.manifest.text++encoded.payload))

lemma fingerprint_eq (content:Content):
  fingerprint sha256 content=sha256 (fingerprintInput content):=by
 cases content with
 | tombstone=>rfl
 | live encoded=>simp only [fingerprint,fingerprintInput,List.append_assoc]

end

lemma fingerprintInput_inj {a b:Content} (ha:a.Fingerprinted) (hb:b.Fingerprinted)
  (h:fingerprintInput a=fingerprintInput b):a=b:=by
 cases a with
 | tombstone=>
  cases b with
  | tombstone=>rfl
  | live y=>
   have hfirst:some (100:UInt8)=some 117:=congrArg List.head? h
   exact absurd hfirst (by decide)
 | live x=>
  cases b with
  | tombstone=>
   have hfirst:some (117:UInt8)=some 100:=congrArg List.head? h
   exact absurd hfirst (by decide)
  | live y=>
   have hbody:=List.append_cancel_left h
   obtain ⟨hsize,hrest⟩:=List.append_inj hbody (by rw [toBytes_length,toBytes_length])
   have hlength:(utf8 x.manifest.text).length=(utf8 y.manifest.text).length:=by
    rw [←ofBytes_toBytes 4 _ ha,hsize,ofBytes_toBytes 4 _ hb]
   obtain ⟨htext,hpayload⟩:=List.append_inj hrest hlength
   obtain ⟨⟨xtext,_,_⟩,xpayload⟩:=x
   obtain ⟨⟨ytext,_,_⟩,ypayload⟩:=y
   obtain rfl:xtext=ytext:=utf8_injective htext
   obtain rfl:xpayload=ypayload:=hpayload
   rfl

end Movie.DurableModel
