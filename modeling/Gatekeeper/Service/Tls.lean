import Gatekeeper.Codec.Der
import Gatekeeper.Codec.Pem
import Gatekeeper.FileTree

/-!
# Keys and certificates for TLS

A service that uses TLS loads a private key and a certificate from files. Each
file has to hold a block of the right kind whose data is well formed.
-/

namespace Gatekeeper.Tls

inductive Fault where
  | keyFile
  | certificateFile
deriving DecidableEq, Repr

def Fault.message : Fault → String
  | keyFile => "load ssl key file"
  | certificateFile => "load ssl cert file"

def keyTags : List String :=
  ["PRIVATE KEY", "RSA PRIVATE KEY", "EC PRIVATE KEY", "DSA PRIVATE KEY"]

def certificateTags : List String :=
  ["CERTIFICATE", "X509 CERTIFICATE", "TRUSTED CERTIFICATE"]

/-- Whether values have the shape that a tag promises. -/
def hasShape (tag : String) (values : List Der.Value) : Bool :=
  match tag, values with
  | "PRIVATE KEY", .sequence (.other :: .sequence _ :: .octets _ :: _) :: _ =>
      true
  | "RSA PRIVATE KEY", .sequence numbers :: _ => 9 ≤ numbers.length
  | "EC PRIVATE KEY", .sequence (.other :: .octets _ :: _) :: _ => true
  | "DSA PRIVATE KEY", .sequence numbers :: _ => 6 ≤ numbers.length
  | _, .sequence [.sequence _, .sequence _, .bits _] :: _ =>
      certificateTags.contains tag
  | _, _ => false

def isWellFormed (block : Pem.Block) : Bool :=
  (Der.Value.readAll? (block.content.length + 1) block.content).any
    (hasShape block.tag)

/-- Whether the first block of some kinds in a file is well formed. -/
def holds (files : FileTree) (path : String) (tags : List String) : Bool :=
  match files.read path with
  | .error _ => false
  | .ok bytes =>
      ((Pem.Block.ofText (Text.Utf8.decodeLossy bytes)).find? fun block =>
        tags.contains block.tag).any isWellFormed

def load (files : FileTree) (keyPath certificatePath : String) :
    Except Fault Unit :=
  if !holds files keyPath keyTags then .error .keyFile
  else if !holds files certificatePath certificateTags then
    .error .certificateFile
  else .ok ()

end Gatekeeper.Tls
