import ServerLauncher.Proofs.Registry.Delivery
import ServerLauncher.Proofs.World.Record
import ServerLauncher.Proofs.World.Web
import ServerLauncher.Registry.Client

/-!
This module contains the effect of whole downloads on the file system. A download is given up and has
changed nothing, or it is refused in the end and has made directories, or it installs its file, and that
only if the checksum was right.
-/

namespace ServerLauncher.Registry

open FileSystem

variable {fs fs' : FileSystem} {directory destination : Path} {name url digest : String}
  {x d : Location} {via : List Location} {body : ByteArray} {finished : Prop}

theorem run_writeFile {w : World} {p : Path} {files : FileSystem}
    (h : w.files.writeFile p body w.now = .ok files) :
    (changeFiles fun w => (((), ·)) <$> w.files.writeFile p body w.now).run.run w =
      (.ok (), w.withFiles files) := by
  rw [run_changeFiles]
  rw [h]
  rfl

/--
A download has staged a file of its own and asked for its URL since then. The file has some content now.
-/
structure Streamed (url : String) (w w₁ : World) (directory : Path) (name : String) (x : Location)
    (via : List Location) (body : ByteArray) : Prop where
  isDownload : ∃ number, name = downloadName "pkl-lsp-" number
  way : WayTo w.files directory name x via
  copied : Copied w.files w₁.files (name :: x) body
  events : w₁.events = ((Http.getBytes url).run.run w).2.events

theorem run_stream {w : World} {files : FileSystem} (url : String)
    (hname : ∃ number, name = downloadName "pkl-lsp-" number)
    (h : WayTo w.files directory name x via)
    (hcopy : Copied w.files files (name :: x) .empty) :
    (∃ cause w₁, (stream url (directory / name)).run.run (w.withFiles files) =
        (.error (.network url cause), w₁) ∧ ((Http.getBytes url).run.run w).1 = .error cause ∧
        Streamed url w w₁ directory name x via .empty) ∨
      ∃ body w₁, (stream url (directory / name)).run.run (w.withFiles files) =
        (.ok (Sha256.hexDigest body), w₁) ∧ ((Http.getBytes url).run.run w).1 = .ok body ∧
        Streamed url w w₁ directory name x via body := by
  have hrun := Attempt.run_adapt (Http.getBytes url) (FetchError.network url) (w.withFiles files)
  rw [Http.ignoresFiles_getBytes url w files] at hrun
  have ⟨modified, hcontent⟩ := hcopy.content
  unfold stream
  rcases hget : (Http.getBytes url).run.run w with ⟨received, w'⟩
  have hevents := congrArg (fun run => run.2.events) hget
  rw [hget] at hrun
  cases received with
  | error cause =>
    exact .inl ⟨cause, _, Attempt.run_bind_of_error hrun, rfl, hname, h, hcopy, hevents.symm⟩
  | ok body =>
    have hwrite := (h.grows hcopy.grows).writeFile_of_file hcontent body w'.now
    have hbody := hcopy.put body w'.now
    generalize files.put _ _ = files' at hwrite hbody
    have hfilled := run_writeFile (w := w'.withFiles files) hwrite
    refine .inr ⟨body, w'.withFiles files', ?_, rfl, hname, h, hbody, hevents.symm⟩
    rw [Attempt.run_bind_of_ok hrun]
    rw [Attempt.run_bind_of_ok hfilled]
    rfl

theorem run_discard {attempt : Attempt FetchError Bool} {w w' : World}
    {result : Except FetchError Bool} (h : attempt.run.run w = (result, w')) (path : Path) :
    (ExceptT.mk do
      let result ← attempt.run
      unless result.toOption = some true do discard path
      return result.map fun _ => () : Attempt FetchError Unit).run.run w =
        (result.map fun _ => (), if result.toOption = some true then w'
          else w'.withFiles (w'.files.removeFile path)) := by
  show (attempt.run >>= _ : Action (Except FetchError Unit)).run w = _
  rw [StateT.run_bind]
  rw [h]
  cases result with
  | error e => rfl
  | ok moved => cases moved <;> rfl

/--
The errors by which a download gives up before there is anything to be moved: no file can be staged,
nothing is received, or what has been received has another digest.
-/
inductive GivesUp (received : Except Http.Error ByteArray) (url digest : String) :
    FetchError → Prop where
  | unstaged (e : IoError) : GivesUp received url digest (.io e)
  | unreceived {cause : Http.Error} (hreceived : received = .error cause) :
    GivesUp received url digest (.network url cause)
  | mismatched {body : ByteArray} (hreceived : received = .ok body)
    (hdigest : Sha256.hexDigest body ≠ digest) :
    GivesUp received url digest (.checksumMismatch url digest (Sha256.hexDigest body))

/--
How a download goes that stages its file in a directory: no file can be staged, the staged file is given
up, or it has been verified and is moved to its destination. Unless it has gone there itself, it is
discarded in the end.
-/
inductive Downloading (directory : Path) (url : String) (destination : Path) (digest : String)
    (w : World) : Except FetchError Unit → World → Prop where
  | unstaged (e : IoError) : Downloading directory url destination digest w (.error (.io e)) w
  | givenUp {e : FetchError} {w₁ : World} {name : String} {x : Location} {via : List Location}
    {body : ByteArray} (hgivesUp : GivesUp ((Http.getBytes url).run.run w).1 url digest e)
    (hstreamed : Streamed url w w₁ directory name x via body) :
    Downloading directory url destination digest w (.error e)
      (w₁.withFiles (w₁.files.removeFile (directory / name)))
  | verified {result : Except FetchError Bool} {w₁ w₂ : World} {name : String} {x : Location}
    {via : List Location} {body : ByteArray}
    (hreceived : ((Http.getBytes url).run.run w).1 = .ok body)
    (hdigest : Sha256.hexDigest body = digest)
    (hstreamed : Streamed url w w₁ directory name x via body)
    (hcommit : (commit (directory / name) destination).run.run w₁ = (result, w₂)) :
    Downloading directory url destination digest w (result.map fun _ => ())
      (if result.toOption = some true then w₂
        else w₂.withFiles (w₂.files.removeFile (directory / name)))

theorem downloading_fill {w : World} {files : FileSystem}
    (hname : ∃ number, name = downloadName "pkl-lsp-" number)
    (h : WayTo w.files directory name x via) (hcopy : Copied w.files files (name :: x) .empty)
    {result : Except FetchError Bool} {w' : World}
    (hrun : (fill (directory / name) url destination digest).run.run (w.withFiles files) =
      (result, w')) :
    Downloading directory url destination digest w (result.map fun _ => ())
      (if result.toOption = some true then w'
        else w'.withFiles (w'.files.removeFile (directory / name))) := by
  unfold fill at hrun
  rcases run_stream url hname h hcopy with
    ⟨cause, w₁, hstream, hreceived, hstreamed⟩ | ⟨body, w₁, hstream, hreceived, hstreamed⟩
  . rw [Attempt.run_bind_of_error hstream] at hrun
    cases hrun
    exact .givenUp (.unreceived hreceived) hstreamed
  . rw [Attempt.run_bind_of_ok hstream] at hrun
    by_cases hdigest : Sha256.hexDigest body = digest
    . rw [if_neg (not_not_intro hdigest)] at hrun
      exact .verified hreceived hdigest hstreamed hrun
    . rw [if_pos hdigest] at hrun
      cases hrun
      exact .givenUp (.mismatched hreceived hdigest) hstreamed

theorem downloading_download (staging : Option Path) (url : String) (destination : Path)
    (checksum : String) (w : World) :
    Downloading (staging.getD w.files.temporaryDirectory) url destination
      (Checksum.normalize checksum) w
      ((download staging url destination checksum).run.run w).1
      ((download staging url destination checksum).run.run w).2 := by
  unfold download stage
  rw [Attempt.run_bind_of_ok (Attempt.run_get w)]
  dsimp only
  generalize staging.getD w.files.temporaryDirectory = directory
  have hstage := run_changeFiles
    (fun w => w.files.createFresh directory "pkl-lsp-" .empty w.now) w
  cases hfresh : w.files.createFresh directory "pkl-lsp-" .empty w.now with
  | error e =>
    rw [hfresh] at hstage
    rw [Attempt.run_bind_of_error hstage]
    exact .unstaged e
  | ok fresh =>
    rcases fresh with ⟨staged, files⟩
    rw [hfresh] at hstage
    have ⟨number, x, via, hstaged, hway, hmissing, hfiles⟩ := createFresh_eq_ok (by decide) hfresh
    rw [Attempt.run_bind_of_ok hstage]
    have hcopy := copied_put hmissing .empty w.now
    rw [← hfiles] at hcopy
    rw [hstaged]
    rcases hfill : (fill _ url destination (Checksum.normalize checksum)).run.run
      (w.withFiles files) with ⟨result, w'⟩
    rw [run_discard hfill]
    exact downloading_fill ⟨number, rfl⟩ hway hcopy hfill

theorem Streamed.sameTree {w w₁ : World} (h : Streamed url w w₁ directory name x via body) :
    SameTree w.files (w₁.files.removeFile (directory / name)) := by
  have ⟨modified, hcontent⟩ := h.copied.content
  rw [(h.way.grows h.copied.grows).removeFile_of_file hcontent]
  exact h.copied.sameTree_drop

/--
How a download ends: it is given up and has changed nothing, the verified file cannot be moved and only
directories may have been made for it, or the file has been installed.
-/
inductive Outcome (received : Except Http.Error ByteArray) (directory : Path) (url : String)
    (destination : Path) (digest : String) (fs fs' : FileSystem) :
    Except FetchError Unit → Prop where
  | givenUp {e : FetchError} (hgivesUp : GivesUp received url digest e) (hsame : SameTree fs fs') :
    Outcome received directory url destination digest fs fs' (.error e)
  | refused {body : ByteArray} (e : IoError) (hreceived : received = .ok body)
    (hdigest : Sha256.hexDigest body = digest)
    (hway : MakesWay fs fs' (directoryOf destination)) :
    Outcome received directory url destination digest fs fs' (.error (.io e))
  | installed {body : ByteArray} {d : Location} (hreceived : received = .ok body)
    (hdigest : Sha256.hexDigest body = digest)
    (hinstalled : Installed fs fs' directory destination body d) :
    Outcome received directory url destination digest fs fs' (.ok ())

theorem outcome_download {staging : Option Path} {url checksum : String} {destination : Path}
    {w w' : World} {result : Except FetchError Unit}
    (h : (download staging url destination checksum).run.run w = (result, w')) :
    Outcome ((Http.getBytes url).run.run w).1 (staging.getD w.files.temporaryDirectory) url
      destination (Checksum.normalize checksum) w.files w'.files result := by
  have hdownloading := downloading_download staging url destination checksum w
  rw [h] at hdownloading
  cases hdownloading with
  | unstaged e => exact .givenUp (.unstaged e) ⟨.refl _, fun _ => rfl⟩
  | givenUp hgivesUp hstreamed => exact .givenUp hgivesUp hstreamed.sameTree
  | @verified _ w₁ w₂ name x via body hreceived hdigest hstreamed hcommit =>
    have hcopy := hstreamed.copied
    have hway := hstreamed.way.grows hcopy.grows
    have ⟨modified, hcontent⟩ := hcopy.content
    obtain ⟨committed, files, hrun, hcommits⟩ := commits_commit destination hway hcontent
    obtain ⟨rfl, rfl⟩ := Prod.mk.inj (hrun.symm.trans hcommit)
    cases committed with
    | error e =>
      have hmakes := hcommits.makesWay hcopy hway
      cases hcommits
      exact .refused _ hreceived hdigest hmakes
    | ok moved =>
      have ⟨d, hinstalled⟩ := hcommits.installed hcopy hway hstreamed.isDownload
      apply Outcome.installed hreceived hdigest
      cases moved with
      | true => exact hinstalled
      | false => exact hinstalled

/--
How a download ends as far as its destination is concerned: it fails and leaves only directories, or a
file whose content has a certain digest is installed.
-/
inductive Lands {ε : Type} (fs fs' : FileSystem) (directory destination : Path) (digest : String) :
    Except ε Unit → Prop where
  | failed (e : ε) (hway : MakesWay fs fs' (directoryOf destination)) :
    Lands fs fs' directory destination digest (.error e)
  | installed {body : ByteArray} {d : Location} (hdigest : Sha256.hexDigest body = digest)
    (hinstalled : Installed fs fs' directory destination body d) :
    Lands fs fs' directory destination digest (.ok ())

theorem Lands.mapError {ε ε' : Type} {result : Except ε Unit}
    (h : Lands fs fs' directory destination digest result) (f : ε → ε') :
    Lands fs fs' directory destination digest (result.mapError f) := by
  cases h with
  | failed e hway => exact .failed (f e) hway
  | installed hdigest hinstalled => exact .installed hdigest hinstalled

theorem lands_download {staging : Option Path} {url checksum : String} {destination : Path}
    {w w' : World} {result : Except FetchError Unit}
    (h : (download staging url destination checksum).run.run w = (result, w')) :
    Lands w.files w'.files (staging.getD w.files.temporaryDirectory) destination
      (Checksum.normalize checksum) result := by
  cases outcome_download h with
  | givenUp hgivesUp hsame => exact .failed _ (.of_sameTree hsame _)
  | refused e hreceived hdigest hway => exact .failed _ hway
  | installed hreceived hdigest hinstalled => exact .installed hdigest hinstalled

/--
The place that a path leads to has become a file whose content has a certain digest.
-/
structure Verified (fs fs' : FileSystem) (destination : Path) (digest : String) (d : Location) :
    Prop where
  leads : fs.LeadsTo false destination d
  content : ∃ body modified, fs'.find? d = some (.file body modified none) ∧
    Sha256.hexDigest body = digest

/--
A download, finished or not, has changed nothing but the destination, and that only if it is finished,
and directories on the way.
-/
structure Fetches (fs fs' : FileSystem) (destination : Path) (digest : String) (finished : Prop) :
    Prop where
  ground : SameGround fs fs'
  changed : ∀ y, fs'.find? y ≠ fs.find? y →
    Made fs fs' (directoryOf destination) y ∨ finished ∧ Verified fs fs' destination digest y
  verified : finished → ∃ d, Verified fs fs' destination digest d

theorem fetches_of_makesWay (hway : MakesWay fs fs' (directoryOf destination))
    (hfinished : ¬finished) : Fetches fs fs' destination digest finished where
  ground := hway.grows.ground
  changed := by
    intro y hy
    exact .inl (hway.made y hy)
  verified := by
    intro h
    exact absurd h hfinished

theorem Installed.fetches (h : Installed fs fs' directory destination body d) (hfinished : finished)
    (hpasses : fs.PassesThrough directory d → ∀ y, fs.device y = fs.device d.tail) :
    Fetches fs fs' destination (Sha256.hexDigest body) finished := by
  have ⟨modified, hcontent⟩ := h.content
  have hverified : Verified fs fs' destination (Sha256.hexDigest body) d :=
    ⟨h.leads, body, modified, hcontent, rfl⟩
  refine ⟨h.ground, ?_, fun _ => ⟨d, hverified⟩⟩
  intro y hy
  by_cases heq : y = d
  . rw [heq]
    exact .inr ⟨hfinished, hverified⟩
  . cases h.changed y heq hy with
    | inl hmade => exact .inl hmade
    | inr hstranded => exact absurd (hpasses hstranded.passes _) hstranded.device

/--
A download changes nothing but its destination and directories on the way to it, unless the directory
for its unfinished file is reached through its destination and there are several devices.
-/
theorem Lands.fetches {ε : Type} {result : Except ε Unit}
    (h : Lands fs fs' directory destination digest result)
    (hvia : ∀ d, fs.LeadsTo false destination d → fs.PassesThrough directory d →
      ∀ y, fs.device y = fs.device d.tail) :
    Fetches fs fs' destination digest (result = .ok ()) := by
  cases h with
  | failed e hway => exact fetches_of_makesWay hway (by simp)
  | installed hdigest hinstalled =>
    rw [← hdigest]
    exact hinstalled.fetches rfl (hvia _ hinstalled.leads)

theorem mapError_eq_ok_iff {ε ε' : Type} {result : Except ε Unit} (f : ε → ε') :
    result.mapError f = .ok () ↔ result = .ok () := by
  constructor
  . intro h
    cases result with
    | ok => rfl
    | error e => cases h
  . intro h
    rw [h]
    rfl

/--
How the download of a jar goes: the registry has no URLs for it, there is no checksum, or it is
downloaded to be verified by the checksum.
-/
inductive Client.Downloads (client : Client) (c : Coordinate) (v : Version) (destination : Path)
    (w : World) : Except RegistryError Unit → World → Prop where
  | unnamed (e : RegistryError) : Downloads client c v destination w (.error e) w
  | unverifiable {url : Url} {cause : Http.Error} {w₁ : World}
    (hurl : client.urlOf (c.checksumPath v) = .ok url)
    (hget : (Http.getText url).run.run w = (.error cause, w₁)) :
    Downloads client c v destination w (.error (.http url.text cause)) w₁
  | verifiable {url jarUrl : Url} {checksum : String} {w₁ w₂ : World}
    {fetched : Except FetchError Unit} (hurl : client.urlOf (c.checksumPath v) = .ok url)
    (hjar : client.urlOf (c.jarPath v) = .ok jarUrl)
    (hget : (Http.getText url).run.run w = (.ok checksum, w₁))
    (hrun : (download client.staging jarUrl.text destination checksum).run.run w₁ =
      (fetched, w₂)) :
    Downloads client c v destination w (fetched.mapError .fetch) w₂

theorem downloads_downloadArtifact (client : Client) (c : Coordinate) (v : Version)
    (destination : Path) (w : World) :
    client.Downloads c v destination w ((client.downloadArtifact c v destination).run.run w).1
      ((client.downloadArtifact c v destination).run.run w).2 := by
  unfold Client.downloadArtifact Client.getText
  cases hjar : client.urlOf (c.jarPath v) with
  | error e => exact .unnamed e
  | ok jarUrl =>
    rw [Attempt.run_bind_of_ok (Attempt.run_ofExcept (.ok jarUrl) w)]
    cases hurl : client.urlOf (c.checksumPath v) with
    | error e => exact .unnamed e
    | ok url =>
      rw [Attempt.run_bind_of_ok (Attempt.run_ofExcept (.ok url) w)]
      have hadapt := Attempt.run_adapt (Http.getText url) (RegistryError.http url.text) w
      rcases hget : (Http.getText url).run.run w with ⟨published, w₁⟩
      rw [hget] at hadapt
      cases published with
      | error cause =>
        rw [Attempt.run_bind_of_error hadapt]
        exact .unverifiable hurl hget
      | ok checksum =>
        rw [Attempt.run_bind_of_ok hadapt]
        exact .verifiable hurl hjar hget rfl

theorem files_getText {url : Url} {w w' : World} {published : Except Http.Error String}
    (h : (Http.getText url).run.run w = (published, w')) : w'.files = w.files := by
  have hsame : World.SameFiles w ((Http.getText url).run.run w).2 :=
    Http.keeps_getText Action.sameFiles_request url w
  rw [h] at hsame
  exact hsame.files

theorem lands_downloadArtifact {client : Client} {w w' : World} {c : Coordinate} {v : Version}
    {result : Except RegistryError Unit}
    (h : (client.downloadArtifact c v destination).run.run w = (result, w')) :
    (result ≠ .ok () ∧ w'.files = w.files) ∨
      ∃ url checksum, client.urlOf (c.checksumPath v) = .ok url ∧
        ((Http.getText url).run.run w).1 = .ok checksum ∧
        Lands w.files w'.files (client.staging.getD w.files.temporaryDirectory) destination
          (Checksum.normalize checksum) result := by
  have hdownloads := downloads_downloadArtifact client c v destination w
  rw [h] at hdownloads
  cases hdownloads with
  | unnamed e => exact .inl ⟨by simp, rfl⟩
  | unverifiable hurl hget => exact .inl ⟨by simp, files_getText hget⟩
  | @verifiable url jarUrl checksum w₁ w₂ fetched hurl hjar hget hrun =>
    have hlands := lands_download hrun
    rw [files_getText hget] at hlands
    refine .inr ⟨url, checksum, hurl, ?_, hlands.mapError _⟩
    rw [hget]

end ServerLauncher.Registry
