import DumpReplay.Proofs.Replay.Changing

/-!
# Acquiring the compiler

The compiler of a replay is the jar that is given, else the build of the version: one of the checkout,
or a jar that is fetched from the store into the work directory.

Main results:

- `requests_of_download` : a file is fetched only by a request.
- `eq_chosenFor` : which compiler it is depends on what was asked for, and on nothing else.
-/

namespace DumpReplay.Replay

open DumpReplay.Action

variable {work target : Path} {options : Options} {tools : Toolchain} {plain : Bool}
variable {machine : Machine} {host after : Host} {version : Version} {known : Option Version}
variable {distribution : Distribution}

/-! ## Fetching -/

/-- A file of the build of a version is fetched from the store. -/
def Fetched (version : Version) (name : String) (target : Path) (tools : Toolchain)
    (machine : Machine) (before after : Host) : Prop :=
  ∃ url, (Store.ofAddress tools.store).artifactUrl? version name = some url ∧
    (download url target).on machine before = (.ok (), after)

/-- A request that is answered is counted. -/
theorem requests_of_request {method : Method} {address : String} {reply : Reply}
    (h : (request method address).on machine host = (.ok reply, after)) :
    (∃ cause, reply = .refused cause) ∨ after.requests = host.requests + 1 := by
  unfold request at h
  cases hurl : Url.forRequest address with
  | error cause =>
    rw [hurl] at h
    exact .inl ⟨cause, (Except.ok.inj (Prod.mk.inj h).1).symm⟩
  | ok url =>
    rw [hurl] at h
    obtain ⟨_, rfl⟩ := Prod.mk.inj h
    exact .inr rfl

/-- A file is fetched only by a request. -/
theorem requests_of_download {url : String}
    (h : (download url target).on machine host = (.ok (), after)) :
    after.requests = host.requests + 1 := by
  have hwrite : ∀ body, Keeps Host.requests (do
      writeBytes target body
      inform ("Downloaded to: " ++ target.text)) := fun body =>
    .bind (.bind (.look _) fun written => .bind (.ofIo written) fun _ _ _ => rfl) fun _ _ _ => rfl
  unfold download at h
  rw [on_bind_of_ok _ (on_inform _)] at h
  obtain ⟨reply, asked, hreply, h⟩ := on_bind_eq_ok.mp h
  have hasked := requests_of_request hreply
  cases reply with
  | refused cause => exact absurd (Prod.mk.inj h).1 (by simp)
  | answered status success body =>
    cases success with
    | false => exact absurd (Prod.mk.inj h).1 (by simp)
    | true =>
      rcases hasked with ⟨_, hrefused⟩ | hasked
      · exact absurd hrefused (by simp)
      · rw [(hwrite body).eq h, hasked]
  | brokenOff status success cause =>
    cases success with
    | false => exact absurd (Prod.mk.inj h).1 (by simp)
    | true =>
      dsimp only at h
      rw [if_neg (by decide)] at h
      obtain ⟨_, _, _, h⟩ := on_bind_eq_ok.mp h
      obtain ⟨_, _, _, h⟩ := on_bind_eq_ok.mp h
      obtain ⟨_, _, _, h⟩ := on_bind_eq_ok.mp h
      obtain ⟨_, _, _, h⟩ := on_bind_eq_ok.mp h
      obtain ⟨_, _, _, h⟩ := on_bind_eq_ok.mp h
      exact absurd (Prod.mk.inj h).1 (by simp)

/-! ## The compiler -/

/-- A distribution that is verified is the one that was found. -/
theorem verified {found : Distribution}
    (h : (do found.verify; return found : Action Distribution).on machine host =
      (.ok distribution, after)) :
    distribution = found ∧ after.withoutLog = host.withoutLog := by
  obtain ⟨_, middle, hverify, hpure⟩ := on_bind_eq_ok.mp h
  obtain ⟨houtcome, rfl⟩ := Prod.mk.inj hpure
  exact ⟨(Except.ok.inj houtcome).symm, found.looks_verify.eq hverify⟩

/-- A compiler jar that is given is used whatever the version is, and nothing is fetched for it. -/
theorem distributionFor_given {file : Path}
    (hgiven : options.compilerJar = some file)
    (h : (distributionFor options known work tools).on machine host = (.ok distribution, after)) :
    distribution = .jar file ∧ after.withoutLog = host.withoutLog := by
  unfold distributionFor at h
  rw [hgiven] at h
  exact verified h

/-- Without one, it is the build of the version. -/
theorem distributionFor_acquired (hgiven : options.compilerJar = none)
    (h : (distributionFor options (some version) work tools).on machine host =
      (.ok distribution, after)) :
    ∃ acquired,
      (Distribution.acquire version options.plainBuild work tools).on machine host =
        (.ok distribution, acquired) ∧ after.withoutLog = acquired.withoutLog := by
  unfold distributionFor at h
  rw [hgiven] at h
  obtain ⟨found, acquired, hacquire, h⟩ := on_bind_eq_ok.mp h
  obtain ⟨rfl, hafter⟩ := verified h
  exact ⟨acquired, hacquire, hafter⟩

/-- The build of the checkout is a jar that stands there. -/
theorem acquire_main
    (h : (Distribution.acquire .main plain work tools).on machine host =
      (.ok distribution, after)) :
    distribution = .jar (if plain then tools.plainJar else tools.libraryJar) := by
  obtain ⟨found, middle, hfound, h⟩ := on_bind_eq_ok.mp h
  obtain ⟨hjar, _⟩ := Prod.mk.inj hfound
  obtain ⟨hsame, _⟩ := Prod.mk.inj h
  exact (Except.ok.inj hsame).symm.trans (Except.ok.inj hjar).symm

/-- The class files of the checkout stand there, too. -/
theorem acquire_source
    (h : (Distribution.acquire .source plain work tools).on machine host =
      (.ok distribution, after)) :
    distribution = .classpath [tools.classes, tools.dependencies] := by
  obtain ⟨found, middle, hfound, h⟩ := on_bind_eq_ok.mp h
  obtain ⟨hjar, _⟩ := Prod.mk.inj hfound
  obtain ⟨hsame, _⟩ := Prod.mk.inj h
  exact (Except.ok.inj hsame).symm.trans (Except.ok.inj hjar).symm

/-- A build is fetched when its jar is. -/
theorem fetch_eq_ok
    (h : (Distribution.fetch version plain work tools).on machine host =
      (.ok distribution, after)) :
    Fetched version (Store.distributionName plain) (work.child Store.plainJar) tools machine host after ∧
      distribution = .jar (work.child Store.plainJar) := by
  unfold Distribution.fetch at h
  dsimp only at h
  cases hurl : (Store.ofAddress tools.store).artifactUrl? version (Store.distributionName plain) with
  | none =>
    rw [hurl] at h
    exact absurd (Prod.mk.inj h).1 (by simp)
  | some url =>
    rw [hurl] at h
    dsimp only at h
    rw [on_bind_of_ok _ (run_attempt ..)] at h
    rcases hdownload : (download url (work.child Store.plainJar)).on machine host with
      ⟨outcome, jarred⟩
    rw [hdownload] at h
    cases outcome with
    | error cause => exact absurd (Prod.mk.inj h).1 (by simp)
    | ok value =>
      obtain ⟨hsame, rfl⟩ := Prod.mk.inj h
      exact ⟨⟨url, hurl, hdownload⟩, (Except.ok.inj hsame).symm⟩

/-- The build of a hash or a release is the jar that is fetched for it. -/
theorem acquire_remote (hremote : version.isRemote = true)
    (h : (Distribution.acquire version plain work tools).on machine host =
      (.ok distribution, after)) :
    ∃ jarred, Fetched version (Store.distributionName plain) (work.child Store.plainJar) tools machine host
      jarred ∧ distribution = .jar (work.child Store.plainJar) ∧
        after.withoutLog = jarred.withoutLog := by
  have hfetch : Distribution.acquire version plain work tools = (do
      let found ← Distribution.fetch version plain work tools
      Action.inform ("Using distribution: " ++ found.shown)
      return found) := by
    cases version with
    | main => exact absurd hremote (by decide)
    | source => exact absurd hremote (by decide)
    | hash digits => rfl
    | release name => rfl
  rw [hfetch] at h
  obtain ⟨found, jarred, hfound, h⟩ := on_bind_eq_ok.mp h
  obtain ⟨hjarred, rfl⟩ := fetch_eq_ok hfound
  obtain ⟨hsame, hafter⟩ := Prod.mk.inj h
  exact ⟨jarred, hjarred, (Except.ok.inj hsame).symm, by rw [← hafter]; rfl⟩

/-- The compiler of a replay, if it can be had. -/
def chosenFor (options : Options) (tools : Toolchain) (known : Option Version) (work : Path) :
    Distribution :=
  match options.compilerJar, known with
  | some file, _ => .jar file
  | none, some .main => .jar (if options.plainBuild then tools.plainJar else tools.libraryJar)
  | none, some .source => .classpath [tools.classes, tools.dependencies]
  | none, _ => .jar (work.child Store.plainJar)

/-- Which compiler a replay uses depends on what was asked for, and on nothing else. -/
theorem eq_chosenFor
    (h : (distributionFor options known work tools).on machine host = (.ok distribution, after)) :
    distribution = chosenFor options tools known work := by
  unfold chosenFor
  cases hgiven : options.compilerJar with
  | some file => exact (distributionFor_given hgiven h).1
  | none =>
    cases known with
    | none =>
      unfold distributionFor at h
      rw [hgiven] at h
      exact absurd (Prod.mk.inj h).1 (by simp)
    | some version =>
      obtain ⟨acquired, hacquire, _⟩ := distributionFor_acquired hgiven h
      cases version with
      | main => exact acquire_main hacquire
      | source => exact acquire_source hacquire
      | hash digits => exact (acquire_remote rfl hacquire).choose_spec.2.1
      | release name => exact (acquire_remote rfl hacquire).choose_spec.2.1

end DumpReplay.Replay
