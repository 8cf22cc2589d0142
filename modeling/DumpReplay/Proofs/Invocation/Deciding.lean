import DumpReplay.Invocation
import DumpReplay.Proofs.Properties.Rearranging
import DumpReplay.Proofs.Text.Lowercasing

/-!
# What an invocation depends on

An invocation is decided by what was asked for and by six keys of the build properties.  Of a text only
the last lines with these keys count, and of those only the ones that say what was not asked for.

Main results:

- `ofProperties_eq_error_iff` : when build properties name no compiler.
- `resolve_eq_of_saysSame` : properties that say the same of what is open decide the same.
- `resolve_depends_on_last_lines` : what the invocation for a text depends on, and when there is none.
-/

namespace DumpReplay

open Properties

/-! ## Compilers -/

namespace Compiler

variable {properties : Properties} {name tool : String}

/-- Whether a name is that of a compiler, in letters of either case. -/
def HasName (compiler : Compiler) (name : String) : Prop :=
  Text.equalIgnoringCase name.toList compiler.name.toList = true

theorem isPlain_name (compiler : Compiler) : ∀ c ∈ compiler.name.toList, Text.IsPlain c := by
  have hall : (compiler.name.toList.all fun c => 0 < c.toNat && c.toNat < 128 && c != 'k') = true := by
    cases compiler <;> decide
  intro c hc
  have hplain := List.all_eq_true.mp hall c hc
  simp only [Bool.and_eq_true, decide_eq_true_eq, bne_iff_ne] at hplain
  exact ⟨hplain.1.1, hplain.1.2, hplain.2⟩

/-- The small form of a text is the name of a compiler exactly if the text is the name in letters of
either case. -/
theorem lowercase_eq_name_iff (compiler : Compiler) (tool : String) :
    String.ofList (Text.lowercase tool.toList) = compiler.name ↔ compiler.HasName tool := by
  have hsmall : compiler.name.toList.map Char.toLower = compiler.name.toList := by
    cases compiler <;> decide
  rw [← String.toList_inj, String.toList_ofList]
  exact Text.lowercase_eq_iff (isPlain_name compiler) hsmall

/-- A name for which there is no compiler is refused. -/
theorem ofName_eq_error_iff :
    (∃ failure, ofName name = .error failure) ↔ ∀ compiler : Compiler, name ≠ compiler.name := by
  unfold ofName
  cases hname : ofName? name with
  | some compiler => simp [ofName?_eq_some_iff.mp hname]
  | none =>
    have hnone : ∀ compiler : Compiler, name ≠ compiler.name := by
      rintro compiler rfl
      rw [ofName?_name] at hname
      exact absurd hname (by simp)
    simp [hnone]

/-- Build properties name no compiler if they name none at all, or not one of the four, or the shrinker
without its mode. -/
theorem ofProperties_eq_error_iff :
    (∃ failure, ofProperties properties = .error failure) ↔
      properties.get? "tool" = none ∨ ∃ tool, properties.get? "tool" = some tool ∧
        ((∀ compiler : Compiler, ¬compiler.HasName tool) ∨
          r8.HasName tool ∧ properties.get? "force-proguard-compatibility" = none) := by
  unfold ofProperties
  cases properties.get? "tool" with
  | none => simp
  | some tool =>
    simp only [← lowercase_eq_name_iff, reduceCtorEq, false_or, Option.some.injEq, exists_eq_left']
    by_cases hr8 : String.ofList (Text.lowercase tool.toList) = "r8"
    · have hnamed : ¬∀ compiler : Compiler, ¬String.ofList (Text.lowercase tool.toList) = compiler.name :=
        fun h => h .r8 hr8
      rw [if_pos hr8]
      cases properties.get? "force-proguard-compatibility" with
      | none => simp [hr8, name]
      | some compatible =>
        dsimp only
        split <;> simp [hnamed]
    · have hother : String.ofList (Text.lowercase tool.toList) ≠ r8.name := hr8
      rw [if_neg hr8, ofName_eq_error_iff]
      simp [hother]

end Compiler

/-! ## Invocations -/

namespace Invocation

variable {request : Request} {properties other : Properties} {work : Path}

/-- The keys that an invocation is decided by. -/
def decisiveKeys : List String :=
  ["tool", "force-proguard-compatibility", "min-api", "classfile", "android-platform-build",
    "enable-missing-library-api-modeling"]

/-- Two sources of values say the same of what a request leaves open.  A compiler that is asked for
settles both keys that would name one, and a flag that is set settles its key; of the key for class files
only the presence counts. -/
structure SaysSame (request : Request) (said told : String → Option String) : Prop where
  tool : request.compiler = none → said "tool" = told "tool"
  compatibility : request.compiler = none →
    said "force-proguard-compatibility" = told "force-proguard-compatibility"
  minApi : request.minApi = none → said "min-api" = told "min-api"
  classfile : request.classfile = false → (said "classfile").isSome = (told "classfile").isSome
  platformBuild : request.platformBuild = false →
    said "android-platform-build" = told "android-platform-build"
  missingApiModeling : request.missingApiModeling = false →
    said "enable-missing-library-api-modeling" = told "enable-missing-library-api-modeling"

/-- Properties that say the same of what is open decide the same invocation, or fail alike. -/
theorem resolve_eq_of_saysSame (h : SaysSame request properties.get? other.get?) (work : Path) :
    resolve request properties work = resolve request other work := by
  have hcompiler : Compiler.resolve request.compiler properties =
      Compiler.resolve request.compiler other := by
    cases hrequested : request.compiler with
    | some name => rfl
    | none =>
      simp only [Compiler.resolve, Compiler.ofProperties, h.tool hrequested, h.compatibility hrequested]
  have hminApi : resolveMinApi request.minApi properties = resolveMinApi request.minApi other := by
    cases hrequested : request.minApi with
    | some level => rfl
    | none => exact h.minApi hrequested
  have hclassfile : (request.classfile || properties.contains "classfile") =
      (request.classfile || other.contains "classfile") := by
    cases hflag : request.classfile with
    | true => rfl
    | false => exact h.classfile hflag
  have hplatform : (request.platformBuild || properties.isTrue "android-platform-build") =
      (request.platformBuild || other.isTrue "android-platform-build") := by
    cases hflag : request.platformBuild with
    | true => rfl
    | false => rw [Properties.isTrue, Properties.isTrue, h.platformBuild hflag]
  have hmodeling :
      (request.missingApiModeling || properties.isTrue "enable-missing-library-api-modeling") =
        (request.missingApiModeling || other.isTrue "enable-missing-library-api-modeling") := by
    cases hflag : request.missingApiModeling with
    | true => rfl
    | false => rw [Properties.isTrue, Properties.isTrue, h.missingApiModeling hflag]
  rw [resolve, resolve, hcompiler, hminApi, hclassfile, hplatform, hmodeling]

/-- Sources that say the same under every decisive key say the same of what is open. -/
theorem SaysSame.of_decisiveKeys {said told : String → Option String}
    (h : ∀ key ∈ decisiveKeys, said key = told key) : SaysSame request said told where
  tool := fun _ => h _ (by decide)
  compatibility := fun _ => h _ (by decide)
  minApi := fun _ => h _ (by decide)
  classfile := fun _ => congrArg Option.isSome (h _ (by decide))
  platformBuild := fun _ => h _ (by decide)
  missingApiModeling := fun _ => h _ (by decide)

/-! ## Failures -/

/-- Whether no compiler can be told from a request and what the properties say: it asks for none of the
four, or it asks for none and the properties name none, none of the four in letters of either case, or
the shrinker without its mode. -/
def Undecided (request : Request) (said : String → Option String) : Prop :=
  match request.compiler with
  | some name => ∀ compiler : Compiler, name ≠ compiler.name
  | none => said "tool" = none ∨ ∃ tool, said "tool" = some tool ∧
      ((∀ compiler : Compiler, ¬compiler.HasName tool) ∨
        Compiler.r8.HasName tool ∧ said "force-proguard-compatibility" = none)

/-- There is no invocation exactly if no compiler can be told. -/
theorem resolve_eq_error_iff :
    (∃ failure, resolve request properties work = .error failure) ↔
      Undecided request properties.get? := by
  have hresolve : (∃ failure, resolve request properties work = .error failure) ↔
      ∃ failure, Compiler.resolve request.compiler properties = .error failure := by
    unfold resolve
    cases Compiler.resolve request.compiler properties <;> simp [Except.map]
  rw [hresolve, Undecided]
  cases request.compiler with
  | some name => exact Compiler.ofName_eq_error_iff
  | none => exact Compiler.ofProperties_eq_error_iff

/-! ## Texts -/

/-- Whether a source of values says that a key is true, in letters of either case. -/
def SaysTrue (said : String → Option String) (key : String) : Prop :=
  ∃ value, said key = some value ∧ Text.equalIgnoringCase value.toList "true".toList = true

theorem isTrue_iff {key : String} : properties.isTrue key = true ↔ SaysTrue properties.get? key := by
  unfold Properties.isTrue SaysTrue
  cases properties.get? key <;> simp

/-- What the invocation for a text depends on.  Only the last values under the six decisive keys count,
and only those that the request leaves open; for class files it is enough that the key is there.  So the
lines of the text may be rearranged, as long as lines with the same key keep their order, and lines with
other keys may come and go.  A flag is on exactly if the request or the text says so.  And there is no
invocation exactly if no compiler can be told. -/
theorem resolve_depends_on_last_lines (request : Request) (content : String) (work : Path) :
    let said := lastValue? (recorded content)
    (∀ other, SaysSame request said (lastValue? (recorded other)) →
      resolve request (parse content) work = resolve request (parse other) work) ∧
    (∀ other, Rearranged decisiveKeys (Text.lines content.toList) (Text.lines other.toList) →
      resolve request (parse content) work = resolve request (parse other) work) ∧
    (∀ invocation, resolve request (parse content) work = .ok invocation →
      (invocation.classfile = true ↔ request.classfile = true ∨ (said "classfile").isSome) ∧
      (invocation.platformBuild = true ↔
        request.platformBuild = true ∨ SaysTrue said "android-platform-build") ∧
      (invocation.missingApiModeling = true ↔
        request.missingApiModeling = true ∨ SaysTrue said "enable-missing-library-api-modeling")) ∧
    ((∃ failure, resolve request (parse content) work = .error failure) ↔ Undecided request said) := by
  intro said
  have hsaid : ∀ text, (parse text).get? = lastValue? (recorded text) :=
    fun text => funext (records_parse text).get?_eq
  have hsame : ∀ other, SaysSame request said (lastValue? (recorded other)) →
      resolve request (parse content) work = resolve request (parse other) work := by
    intro other h
    refine resolve_eq_of_saysSame ?_ work
    rwa [hsaid, hsaid]
  refine ⟨hsame, fun other h => ?_, fun invocation hok => ?_, ?_⟩
  · exact hsame other (.of_decisiveKeys fun key hkey => lastValue?_recorded_eq h hkey)
  · unfold resolve at hok
    cases hcompiler : Compiler.resolve request.compiler (parse content) with
    | error failure =>
      rw [hcompiler] at hok
      exact absurd hok (by simp [Except.map])
    | ok compiler =>
      rw [hcompiler] at hok
      rw [← Except.ok.inj hok]
      simp only [Bool.or_eq_true, isTrue_iff, contains, hsaid]
      exact ⟨.rfl, .rfl, .rfl⟩
  · rw [resolve_eq_error_iff, hsaid]

/-- What was asked for in front of the texts below. -/
def sampleRequest : Request :=
  ⟨none, some "30", false, false, true⟩

/-- A text that names the compiler twice. -/
def sampleText : String :=
  "tool=d8\nmode=debug\ntool=R8\nmin-api=21\nforce-proguard-compatibility=False\nclassfile="

/-- A text with its decisive lines in another order, another level, and other lines between them. -/
def shuffledText : String :=
  "classfile=\nforce-proguard-compatibility=False\n\ntool=d8\nbackend\nmin-api=21\ntool=R8\nmode=release"

/-- The later name counts in both texts, the level that was asked for replaces the recorded one, and the
flag that is set stays. -/
theorem resolve_depends_on_last_lines_shuffled :
    Rearranged decisiveKeys (Text.lines sampleText.toList) (Text.lines shuffledText.toList) ∧
      resolve sampleRequest (parse sampleText) ⟨"w"⟩ =
        .ok ⟨.r8full, some "30", ⟨"w/out.jar"⟩, true, false, true⟩ ∧
      resolve sampleRequest (parse shuffledText) ⟨"w"⟩ =
        .ok ⟨.r8full, some "30", ⟨"w/out.jar"⟩, true, false, true⟩ := by
  obtain ⟨_, hrearranged, _, _⟩ := resolve_depends_on_last_lines sampleRequest sampleText ⟨"w"⟩
  have hlines : Rearranged decisiveKeys (Text.lines sampleText.toList) (Text.lines shuffledText.toList) :=
    rearranged_iff.mpr (by decide +kernel)
  have hresolve : resolve sampleRequest (parse sampleText) ⟨"w"⟩ =
      .ok ⟨.r8full, some "30", ⟨"w/out.jar"⟩, true, false, true⟩ := by rfl
  refine ⟨hlines, hresolve, ?_⟩
  rw [← hrearranged shuffledText hlines, hresolve]

end Invocation

end DumpReplay
