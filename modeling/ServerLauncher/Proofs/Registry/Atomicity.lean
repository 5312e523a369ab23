import ServerLauncher.Proofs.Registry.Transfer

/-!
This module contains the atomicity of downloads. A download installs what it has received, if that has
the published checksum, or it leaves everything as it was, but for missing directories on the way to
its destination if the last step is refused.
-/

namespace ServerLauncher

namespace Sha256

/--
The text has the form of a digest: 64 hexadecimal digits, in lower case.
-/
def IsDigest (text : String) : Prop :=
  text.length = 64 ∧ ∀ c ∈ text.toList, c ∈ "0123456789abcdef".toList

theorem length_bigEndian (count n : Nat) : (bigEndian count n).length = count := by
  induction count generalizing n with
  | zero => rfl
  | succ count ih =>
    unfold bigEndian
    rw [List.length_append, ih]
    rfl

theorem length_digest (bytes : ByteArray) : (digest bytes).length = 32 := by
  simp [digest, State.words, length_bigEndian]

theorem length_hex (bytes : List UInt8) : (hex bytes).length = 2 * bytes.length := by
  unfold hex
  rw [String.length_ofList]
  induction bytes with
  | nil => rfl
  | cons b rest ih =>
    rw [List.flatMap_cons, List.length_append, ih]
    simp only [List.length_cons, List.length_nil]
    omega

theorem digitChar_mem {n : Nat} (h : n < 16) : Nat.digitChar n ∈ "0123456789abcdef".toList := by
  revert n
  decide

theorem isDigest_hexDigest (bytes : ByteArray) : IsDigest (hexDigest bytes) := by
  unfold hexDigest
  constructor
  . rw [length_hex, length_digest]
  . intro c hc
    unfold hex at hc
    rw [String.toList_ofList, List.mem_flatMap] at hc
    have ⟨b, _, hc⟩ := hc
    have hb := b.toNat_lt
    simp only [List.mem_cons, List.not_mem_nil, or_false] at hc
    cases hc with
    | inl hc =>
      rw [hc]
      exact digitChar_mem (by omega)
    | inr hc =>
      rw [hc]
      exact digitChar_mem (by omega)

end Sha256

namespace Registry

open FileSystem

/--
A world in which every request is answered with the same jar.
-/
def archive (files : FileSystem) : World where
  files := files
  environment := {}
  executable := "/launcher"
  now := 0
  web := fun _ _ => some ⟨200, none, "jar".toUTF8, true⟩
  host := .steady true
  events := []

/--
The world after the jar has been downloaded from the archive.
-/
def downloaded (files : FileSystem) (staging destination : Path) : Except FetchError Unit × World :=
  (download (some staging) "http://r/jar" destination
    "0163f1eea7894350060624d315234d40c508ab251ba121714e234503045faadd").run.run (archive files)

/--
The way to a file leads through a link in its place.
-/
def loopedFiles : FileSystem where
  entries := [(["tmp"], .directory), (["d"], .link "f"), (["f"], .link ".")]
  workingDirectory := []
  temporaryDirectory := "/tmp"
  device := fun _ => 0

/--
The directory for unfinished downloads lies on another device, behind a link in the place of a file.
-/
def remoteFiles : FileSystem where
  entries := [(["remote"], .directory), (["jars"], .directory), (["f", "jars"], .link "/remote")]
  workingDirectory := []
  temporaryDirectory := "/tmp"
  device := fun x => if x = ["remote"] then 1 else 0

/--
There is nothing but a directory for unfinished downloads.
-/
def bareFiles : FileSystem where
  entries := [(["tmp"], .directory)]
  workingDirectory := []
  temporaryDirectory := "/tmp"
  device := fun _ => 0

end Registry

end ServerLauncher
