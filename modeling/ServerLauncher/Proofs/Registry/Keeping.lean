import ServerLauncher.Proofs.World.Web
import ServerLauncher.Registry.Client

/-!
This module contains what lookups and downloads keep. A relation between worlds that does not look
at the files is kept by all of them as soon as requests keep it.
-/

namespace ServerLauncher.Registry

variable {R : World → World → Prop}

-- A relation is kept by a whole download if it does not look at the files and requests keep it.
variable (hfiles : ∀ w files, R w (World.withFiles w files))
variable (hrequest : ∀ url, (Action.request url).Keeps R)

include hfiles

theorem keeps_setFiles (files : FileSystem) : (Action.setFiles files).Keeps R := by
  intro w
  exact hfiles w files

theorem keeps_discard (path : Path) : (discard path).Keeps R := by
  intro w
  exact hfiles w _

variable [IsPreorder World R]

theorem keeps_changeFiles {α : Type} (change : World → Except IoError (α × FileSystem)) :
    (changeFiles change).Keeps R := by
  unfold changeFiles
  refine Attempt.Keeps.bind Attempt.keeps_get ?_
  intro w
  split
  . exact Attempt.keeps_throw _
  . refine Attempt.Keeps.bind (Attempt.keeps_lift (keeps_setFiles hfiles _)) ?_
    intro _
    exact Attempt.keeps_pure _

theorem keeps_makeDirectories (directory : Path) : (makeDirectories directory).Keeps R := by
  unfold makeDirectories
  refine Attempt.Keeps.bind Attempt.keeps_get ?_
  intro w
  split
  refine Attempt.Keeps.bind (Attempt.keeps_lift (keeps_setFiles hfiles _)) ?_
  intro _
  split
  . exact Attempt.keeps_throw _
  . exact Attempt.keeps_pure _

theorem keeps_moveOrDiscard (source destination : Path) :
    (moveOrDiscard source destination).Keeps R := by
  unfold moveOrDiscard
  refine Attempt.Keeps.bind Attempt.keeps_get ?_
  intro w
  split
  . exact Attempt.keeps_lift (keeps_setFiles hfiles _)
  . refine Attempt.Keeps.bind (Attempt.keeps_lift (keeps_discard hfiles _)) ?_
    intro _
    exact Attempt.keeps_throw _

theorem keeps_moveCopy (staged destination : Path) : (moveCopy staged destination).Keeps R := by
  unfold moveCopy
  refine Attempt.Keeps.bind (keeps_changeFiles hfiles _) ?_
  intro copy
  refine Attempt.Keeps.bind (keeps_changeFiles hfiles _) ?_
  intro _
  exact keeps_moveOrDiscard hfiles _ _

theorem keeps_commit (staged destination : Path) : (commit staged destination).Keeps R := by
  unfold commit
  refine Attempt.Keeps.bind (keeps_makeDirectories hfiles _) ?_
  intro _
  refine Attempt.Keeps.bind Attempt.keeps_get ?_
  intro w
  split
  . refine Attempt.Keeps.bind (Attempt.keeps_lift (keeps_setFiles hfiles _)) ?_
    intro _
    exact Attempt.keeps_pure _
  . refine Attempt.Keeps.bind (keeps_moveCopy hfiles _ _) ?_
    intro _
    exact Attempt.keeps_pure _

include hrequest

theorem keeps_fill (staged : Path) (url : String) (destination : Path) (expected : String) :
    (fill staged url destination expected).Keeps R := by
  unfold fill stream
  apply Attempt.Keeps.bind
  . refine Attempt.Keeps.bind ((Http.keeps_getBytes hrequest url).adapt _) ?_
    intro body
    refine Attempt.Keeps.bind (keeps_changeFiles hfiles _) ?_
    intro _
    exact Attempt.keeps_pure _
  . intro actual
    dsimp only
    split
    . exact Attempt.keeps_throw_bind _ _
    . exact keeps_commit hfiles _ _

theorem keeps_download (staging : Option Path) (url : String) (destination : Path)
    (checksum : String) : (download staging url destination checksum).Keeps R := by
  unfold download
  refine Attempt.Keeps.bind Attempt.keeps_get ?_
  intro w
  refine Attempt.Keeps.bind (keeps_changeFiles hfiles _) ?_
  intro staged
  refine Action.Keeps.bind (keeps_fill hfiles hrequest _ _ _ _) ?_
  intro result
  split
  . exact Action.keeps_pure _
  . refine Action.Keeps.bind (keeps_discard hfiles _) ?_
    intro _
    exact Action.keeps_pure _

omit hfiles in
theorem keeps_getText (url : Url) : (Client.getText url).Keeps R :=
  (Http.keeps_getText hrequest url).adapt _

omit hrequest in
theorem keeps_keep (client : Client) (c : Coordinate) (metadata : String) :
    (client.keep c metadata).Keeps R := by
  intro w
  unfold Client.keep
  cases h : client.cache with
  | none => exact refl_of R w
  | some cache => exact hfiles w _

theorem keeps_latest (client : Client) (c : Coordinate) (useCache : Bool) :
    (client.latest c useCache).Keeps R := by
  unfold Client.latest Client.fetchLatest
  refine Attempt.Keeps.bind Attempt.keeps_get ?_
  intro w
  split
  . exact Attempt.keeps_pure _
  . refine Attempt.Keeps.bind (Attempt.keeps_ofExcept _) ?_
    intro url
    refine Attempt.Keeps.bind (keeps_getText hrequest url) ?_
    intro metadata
    refine Attempt.Keeps.bind (Attempt.keeps_ofExcept _) ?_
    intro v
    refine Attempt.Keeps.bind (Attempt.keeps_lift (keeps_keep hfiles _ _ _)) ?_
    intro _
    exact Attempt.keeps_pure _

theorem keeps_downloadArtifact (client : Client) (c : Coordinate) (v : Version)
    (destination : Path) : (client.downloadArtifact c v destination).Keeps R := by
  unfold Client.downloadArtifact
  refine Attempt.Keeps.bind (Attempt.keeps_ofExcept _) ?_
  intro jarUrl
  refine Attempt.Keeps.bind (Attempt.keeps_ofExcept _) ?_
  intro checksumUrl
  refine Attempt.Keeps.bind (keeps_getText hrequest checksumUrl) ?_
  intro checksum
  exact (keeps_download hfiles hrequest _ _ _ _).adapt _

end ServerLauncher.Registry
