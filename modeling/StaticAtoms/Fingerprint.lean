import StaticAtoms.Atom
import StaticAtoms.Bytes.LittleEndian
import StaticAtoms.Bytes.Sha256

/-!
# Fingerprints

The fingerprint of a list of static atoms is the SHA-256 hash of `Fingerprint.encode`, in which every
field has a fixed length or stands behind its length.
-/

namespace StaticAtoms.Fingerprint

/-- A text behind its length. -/
def encodeText (text : String) : Bytes :=
  let bytes := Text.utf8 text
  LittleEndian.encode 4 bytes.length ++ bytes

/-- The bytes of one atom. -/
def encodeAtom (atom : StaticAtom) : Bytes :=
  encodeText atom.ident ++ encodeText atom.string ++ LittleEndian.encode 4 atom.hash.toNat
    ++ [if atom.lowercase then 1 else 0]

/-- The bytes that are hashed: the number of atoms, and the atoms. -/
def encode (atoms : List StaticAtom) : Bytes :=
  LittleEndian.encode 4 atoms.length ++ atoms.flatMap encodeAtom

/-- The fingerprint of a list of static atoms. -/
def ofAtoms (atoms : List StaticAtom) : Digest :=
  Sha256.digest (encode atoms)

end StaticAtoms.Fingerprint
