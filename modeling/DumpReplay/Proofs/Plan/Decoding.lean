import DumpReplay.Plan
import Mathlib.Data.List.Basic

/-!
# Reading plans off their arguments

Behind the program and the output, the arguments of a plan are parts in a fixed order, each of which
starts with a flag of its own and has a length that its flag tells.  So the parts can be read off the
arguments one after the other, whatever the values look like: one that reads like a flag stands where a
value is expected.

Main results:

- `flatMap_spelled_eq_iff` : parts with distinct flags are told by how they are spelled.
- `compatibility_append_eq_iff` : so is compatibility mode, though a program may be named like its flag.
- `arguments_eq_iff_passesSame` : two plans have the same arguments exactly if they pass the same.
-/

namespace DumpReplay

/-! ## Parts -/

/-- A part of a command line, which may be left out. -/
inductive Part where
  /-- A flag without a value. -/
  | switch (flag : String) (given : Bool)
  /-- A flag with a value behind it. -/
  | valued (flag : String) (value : Option String)
deriving DecidableEq

namespace Part

/-- The flag of a part. -/
def flag : Part → String
  | switch flag _ => flag
  | valued flag _ => flag

/-- How a part is spelled. -/
def spelled : Part → List String
  | switch flag given => Jvm.flagIf given [flag]
  | valued flag value => Plan.option flag value

/-- Whether two parts are for the same flag, which takes a value in both or in none. -/
inductive Alike : Part → Part → Prop
  | switch (flag : String) (given given' : Bool) : Alike (switch flag given) (switch flag given')
  | valued (flag : String) (value value' : Option String) :
    Alike (valued flag value) (valued flag value')

variable {part other : Part} {parts others : List Part}

theorem Alike.flag_eq (h : part.Alike other) : other.flag = part.flag := by
  cases h <;> rfl

/-- A part is left out, or it starts with its flag. -/
theorem head?_spelled (part : Part) : part.spelled = [] ∨ part.spelled.head? = some part.flag := by
  cases part with
  | switch flag given => cases given <;> simp [spelled, Jvm.flagIf, Part.flag]
  | valued flag value => cases value <;> simp [spelled, Plan.option, Part.flag]

/-- Some parts in a row start with the flag of one of them, if with anything. -/
theorem flag_of_head? {token : String} (h : (parts.flatMap spelled).head? = some token) :
    token ∈ parts.map flag := by
  induction parts with
  | nil => exact absurd h (by simp)
  | cons part rest ih =>
    rw [List.flatMap_cons] at h
    rcases head?_spelled part with hnone | hflag
    · rw [hnone, List.nil_append] at h
      exact List.mem_cons_of_mem _ (ih h)
    · rw [List.head?_append_of_ne_nil _ (by intro hnil; simp [hnil] at hflag), hflag] at h
      rw [← Option.some.inj h]
      exact List.mem_cons_self

/-- A part is told by how it is spelled, if what follows does not start with its flag. -/
theorem spelled_append_eq_iff {rest rest' : List String} (hparts : part.Alike other)
    (h : rest.head? ≠ some part.flag) (h' : rest'.head? ≠ some part.flag) :
    part.spelled ++ rest = other.spelled ++ rest' ↔ part = other ∧ rest = rest' := by
  cases hparts with
  | switch flag given given' =>
    cases given <;> cases given' <;> simp only [spelled, Jvm.flagIf, Part.flag] at h h' ⊢
    · simp
    · constructor
      · rintro rfl
        simp at h
      · simp
    · constructor
      · rintro rfl
        simp at h'
      · simp
    · simp
  | valued flag value value' =>
    cases value <;> cases value' <;> simp only [spelled, Plan.option, Part.flag] at h h' ⊢
    · simp
    · constructor
      · rintro rfl
        simp at h
      · simp
    · constructor
      · rintro rfl
        simp at h'
      · simp
    · simp

/-- Parts with distinct flags are told by how they are spelled. -/
theorem flatMap_spelled_eq_iff (hparts : List.Forall₂ Alike parts others)
    (hdistinct : (parts.map flag).Nodup) :
    parts.flatMap spelled = others.flatMap spelled ↔ parts = others := by
  induction hparts with
  | nil => simp
  | cons hpart hrest ih =>
    rename_i part other rest behind
    rw [List.map_cons, List.nodup_cons] at hdistinct
    have hflags : behind.map flag = rest.map flag := by
      clear ih hdistinct
      induction hrest with
      | nil => rfl
      | cons hfirst _ ih => rw [List.map_cons, List.map_cons, hfirst.flag_eq, ih]
    have hnot : (rest.flatMap spelled).head? ≠ some part.flag :=
      fun hhead => hdistinct.1 (flag_of_head? hhead)
    have hnot' : (behind.flatMap spelled).head? ≠ some part.flag :=
      fun hhead => hdistinct.1 (hflags ▸ flag_of_head? hhead)
    rw [List.flatMap_cons, List.flatMap_cons, spelled_append_eq_iff hpart hnot hnot',
      ih hdistinct.2, List.cons.injEq]

end Part

namespace Plan

variable {plan other : Plan}

/-! ## Features -/

/-- The features are told by their arguments, if what follows does not start like one. -/
theorem features_append_eq_iff {features features' : List Path} {rest rest' : List String}
    (hwork : ∀ name, plan.workDirectory.child name = other.workDirectory.child name)
    (h : rest.head? ≠ some "--feature-jar") (h' : rest'.head? ≠ some "--feature-jar") :
    features.flatMap plan.featureArguments ++ rest =
        features'.flatMap other.featureArguments ++ rest' ↔
      features = features' ∧ rest = rest' := by
  induction features generalizing features' with
  | nil =>
    cases features' with
    | nil => simp
    | cons feature' behind =>
      constructor
      · rintro rfl
        exact absurd rfl h
      · simp
  | cons feature features ih =>
    cases features' with
    | nil =>
      constructor
      · rintro rfl
        exact absurd rfl h'
      · simp
    | cons feature' behind =>
      rw [List.flatMap_cons, List.flatMap_cons, List.append_assoc, List.append_assoc]
      simp only [featureArguments, List.cons_append, List.nil_append, List.cons.injEq, true_and]
      rw [ih]
      constructor
      · rintro ⟨hjar, _, hbehind, hrest⟩
        exact ⟨⟨Path.ext_toList (by rw [Path.toList, hjar, Path.toList]), hbehind⟩, hrest⟩
      · rintro ⟨⟨rfl, hbehind⟩, hrest⟩
        exact ⟨rfl, by rw [featureOutput, featureOutput, hwork], hbehind, hrest⟩

/-! ## Compatibility mode -/

/-- Compatibility mode and the program are told by the arguments, as long as the output is not named like
the flag in front of it. -/
theorem compatibility_append_eq_iff {mode mode' : Bool} {program program' output output' : String}
    {rest rest' : List String} (h : output ≠ "--output") (h' : output' ≠ "--output") :
    Jvm.flagIf mode ["--compat"] ++ ([program, "--output", output] ++ rest) =
        Jvm.flagIf mode' ["--compat"] ++ ([program', "--output", output'] ++ rest') ↔
      mode = mode' ∧ program = program' ∧ output = output' ∧ rest = rest' := by
  cases mode <;> cases mode' <;> simp [Jvm.flagIf] <;> grind

/-! ## The whole command line -/

/-- The parts behind the features, in order. -/
def parts (plan : Plan) : List Part :=
  [.valued "--lib" (plan.libraryJar.map Path.text),
    .valued "--classpath" (plan.passedClasspath.map Path.text),
    .valued "--desugared-lib" (plan.desugaredLibrary.map Path.text),
    .valued "--pg-conf" (plan.passedRules.map Path.text),
    .valued "--main-dex-rules" (plan.mainDexRules.map Path.text),
    .valued "--pg-map-output" (plan.requestedMap.map Path.text),
    .valued "--min-api" plan.invocation.minApi,
    .switch "--classfile" plan.invocation.classfile,
    .switch "--android-platform-build" plan.invocation.platformBuild,
    .switch "--enable-missing-library-api-modeling" plan.invocation.missingApiModeling,
    .valued "--threads" plan.threads]

/-- The arguments behind those for the JVM. -/
def compilerArguments (plan : Plan) : List String :=
  Jvm.flagIf plan.invocation.compiler.needsCompatibilityFlag ["--compat"] ++
    ([plan.programJar.text, "--output", plan.invocation.output.text] ++
      (plan.featureJars.flatMap plan.featureArguments ++ plan.parts.flatMap Part.spelled))

theorem arguments_eq (plan : Plan) :
    plan.arguments =
      plan.jvm.arguments ++ plan.systemProperties ++ ["-cp", plan.classpath] ++
        plan.invocation.compiler.entryPoint :: (plan.compilerArguments ++ plan.passthrough) := by
  simp [arguments, hostArguments, fileArguments, modeArguments, compilerArguments, parts, pathOption,
    Part.spelled]

/-- The parts of any two plans are for the same flags. -/
theorem parts_alike (plan other : Plan) : List.Forall₂ Part.Alike plan.parts other.parts := by
  repeat' constructor

/-- The flags of the parts. -/
theorem map_flag_parts (plan : Plan) :
    plan.parts.map Part.flag =
      ["--lib", "--classpath", "--desugared-lib", "--pg-conf", "--main-dex-rules", "--pg-map-output",
        "--min-api", "--classfile", "--android-platform-build",
        "--enable-missing-library-api-modeling", "--threads"] := rfl

theorem parts_distinct (plan : Plan) : (plan.parts.map Part.flag).Nodup := by
  rw [map_flag_parts]
  decide

/-- No part is for a feature. -/
theorem head?_parts_ne (plan : Plan) :
    (plan.parts.flatMap Part.spelled).head? ≠ some "--feature-jar" := by
  intro hhead
  have hflag : "--feature-jar" ∈ plan.parts.map Part.flag := Part.flag_of_head? hhead
  rw [map_flag_parts] at hflag
  exact absurd hflag (by decide)

/-- The entry point and the flag for compatibility mode tell the compiler. -/
theorem compiler_eq_iff {compiler compiler' : Compiler} :
    compiler = compiler' ↔
      compiler.entryPoint = compiler'.entryPoint ∧
        compiler.needsCompatibilityFlag = compiler'.needsCompatibilityFlag := by
  cases compiler <;> cases compiler' <;> decide

/-! ## The output -/

/-- Work directories with the same output are the same in front of every name. -/
theorem child_eq_of_outputIn {directory directory' : Path}
    (h : Invocation.outputIn directory = Invocation.outputIn directory') (name : String) :
    directory.child name = directory'.child name := by
  by_cases habsolute : (Path.mk name).isAbsolute = true
  · rw [Path.child, Path.child, Path.join_absolute habsolute, Path.join_absolute habsolute]
  · rw [Bool.not_eq_true] at habsolute
    have houtput : (Path.mk "out.jar").isAbsolute = false := by decide
    have hlists := congrArg Path.toList h
    rw [Invocation.outputIn, Invocation.outputIn, Path.child, Path.child,
      Path.join_of_not_absolute houtput, Path.join_of_not_absolute houtput] at hlists
    apply Path.ext_toList
    rw [Path.child, Path.child, Path.join_of_not_absolute habsolute,
      Path.join_of_not_absolute habsolute, List.append_cancel_right hlists]

/-- An output in a work directory does not read like the flag in front of it. -/
theorem text_outputIn_ne (directory : Path) :
    (Invocation.outputIn directory).text ≠ "--output" := by
  intro heq
  have houtput : (Path.mk "out.jar").isAbsolute = false := by decide
  have hlast := congrArg (fun text => text.toList.getLast?) heq
  change (Invocation.outputIn directory).toList.getLast? = _ at hlast
  rw [Invocation.outputIn, Path.child, Path.join_of_not_absolute houtput,
    List.getLast?_append_of_ne_nil _ (by decide)] at hlast
  exact absurd hlast (by decide)

/-! ## The theorem -/

/-- Whether two plans pass the same to the compiler.  The class path of the program counts unless the
compiler is the one for desugared libraries, and the keep rules count unless it is the dexer. -/
structure PassesSame (plan other : Plan) : Prop where
  invocation : plan.invocation = other.invocation
  programJar : plan.programJar = other.programJar
  featureJars : plan.featureJars = other.featureJars
  libraryJar : plan.libraryJar = other.libraryJar
  classpathJar : plan.invocation.compiler ≠ .l8 → plan.classpathJar = other.classpathJar
  desugaredLibrary : plan.desugaredLibrary = other.desugaredLibrary
  rules : plan.invocation.compiler ≠ .d8 → plan.rules = other.rules
  mainDexRules : plan.mainDexRules = other.mainDexRules
  threads : plan.threads = other.threads

theorem map_text_inj {path path' : Option Path} :
    path.map Path.text = path'.map Path.text ↔ path = path' :=
  (Option.map_injective fun a b h => by cases a; cases b; exact congrArg _ h).eq_iff

/-- What is passed under a condition counts under that condition. -/
theorem filter_eq_iff {path path' : Option Path} {taken : Bool} :
    (path.filter fun _ => taken) = (path'.filter fun _ => taken) ↔ (taken = true → path = path') := by
  cases taken <;> cases path <;> cases path' <;> simp [Option.filter]

theorem takesRules_iff {compiler : Compiler} : compiler.takesRules = true ↔ compiler ≠ .d8 := by
  cases compiler <;> decide

/-- The parts behind the features are told by what the two plans pass. -/
theorem parts_eq_iff (hcompiler : plan.invocation.compiler = other.invocation.compiler)
    (houtput : plan.invocation.output = other.invocation.output) :
    plan.parts = other.parts ↔
      plan.libraryJar = other.libraryJar ∧
      (plan.invocation.compiler ≠ .l8 → plan.classpathJar = other.classpathJar) ∧
      plan.desugaredLibrary = other.desugaredLibrary ∧
      (plan.invocation.compiler ≠ .d8 → plan.rules = other.rules) ∧
      plan.mainDexRules = other.mainDexRules ∧
      plan.invocation.minApi = other.invocation.minApi ∧
      plan.invocation.classfile = other.invocation.classfile ∧
      plan.invocation.platformBuild = other.invocation.platformBuild ∧
      plan.invocation.missingApiModeling = other.invocation.missingApiModeling ∧
      plan.threads = other.threads := by
  have hrules : plan.passedRules = other.passedRules ↔
      (plan.invocation.compiler ≠ .d8 → plan.rules = other.rules) := by
    rw [passedRules, passedRules, ← hcompiler, filter_eq_iff, takesRules_iff]
  have hclasspath : plan.passedClasspath = other.passedClasspath ↔
      (plan.invocation.compiler ≠ .l8 → plan.classpathJar = other.classpathJar) := by
    rw [passedClasspath, passedClasspath, ← hcompiler, filter_eq_iff, decide_eq_true_iff]
  -- the symbol map is asked for by the compiler and the rules, so it says nothing of its own
  have hmap : plan.passedRules = other.passedRules → plan.requestedMap = other.requestedMap := by
    intro hsame
    rw [requestedMap, requestedMap, hcompiler, hsame, houtput]
  rw [← hrules, ← hclasspath]
  simp only [parts, List.cons.injEq, Part.valued.injEq, Part.switch.injEq, map_text_inj, true_and,
    and_true]
  constructor
  · rintro ⟨hlibrary, hclasspath, hdesugared, hrules, hmainDex, -, hminApi, hclassfile, hplatform,
      hmodeling, hthreads⟩
    exact ⟨hlibrary, hclasspath, hdesugared, hrules, hmainDex, hminApi, hclassfile, hplatform,
      hmodeling, hthreads⟩
  · rintro ⟨hlibrary, hclasspath, hdesugared, hrules, hmainDex, hminApi, hclassfile, hplatform,
      hmodeling, hthreads⟩
    exact ⟨hlibrary, hclasspath, hdesugared, hrules, hmainDex, hmap hrules, hminApi, hclassfile,
      hplatform, hmodeling, hthreads⟩

/-- What a compiler reads tells the mode, the program, the output, the features and the parts. -/
theorem compilerArguments_eq_iff
    (houtput : plan.invocation.output = Invocation.outputIn plan.workDirectory)
    (houtput' : other.invocation.output = Invocation.outputIn other.workDirectory) :
    plan.compilerArguments = other.compilerArguments ↔
      plan.invocation.compiler.needsCompatibilityFlag =
          other.invocation.compiler.needsCompatibilityFlag ∧
        plan.programJar = other.programJar ∧ plan.invocation.output = other.invocation.output ∧
        plan.featureJars = other.featureJars ∧ plan.parts = other.parts := by
  have htext : ∀ {a b : Path}, a.text = b.text ↔ a = b := by
    rintro ⟨a⟩ ⟨b⟩
    simp
  rw [compilerArguments, compilerArguments,
    compatibility_append_eq_iff (houtput ▸ text_outputIn_ne _) (houtput' ▸ text_outputIn_ne _),
    htext, htext]
  refine and_congr_right fun _ => and_congr_right fun _ => and_congr_right fun hsame => ?_
  have hwork : ∀ name, plan.workDirectory.child name = other.workDirectory.child name :=
    child_eq_of_outputIn (houtput ▸ houtput' ▸ hsame)
  rw [features_append_eq_iff hwork plan.head?_parts_ne other.head?_parts_ne,
    Part.flatMap_spelled_eq_iff (parts_alike plan other) plan.parts_distinct]

/-- Command lines are unambiguous: two plans for the same JVM and with the same tokens passed on have the
same arguments exactly if they pass the same to the compiler, whatever their values read like. -/
theorem arguments_eq_iff_passesSame (plan other : Plan) (hjvm : plan.jvm = other.jvm)
    (hproperties : plan.systemProperties = other.systemProperties)
    (hclasspath : plan.classpath = other.classpath)
    (hpassthrough : plan.passthrough = other.passthrough)
    (houtput : plan.invocation.output = Invocation.outputIn plan.workDirectory)
    (houtput' : other.invocation.output = Invocation.outputIn other.workDirectory) :
    plan.arguments = other.arguments ↔ plan.PassesSame other := by
  rw [arguments_eq, arguments_eq, ← hjvm, ← hproperties, ← hclasspath, ← hpassthrough,
    List.append_right_inj, List.cons.injEq, List.append_left_inj,
    compilerArguments_eq_iff houtput houtput']
  constructor
  · rintro ⟨hentry, hflag, hprogram, hout, hfeatures, hparts⟩
    have hcompiler : plan.invocation.compiler = other.invocation.compiler :=
      compiler_eq_iff.2 ⟨hentry, hflag⟩
    obtain ⟨hlibrary, hclasspathJar, hdesugared, hrules, hmainDex, hminApi, hclassfile, hplatform,
      hmodeling, hthreads⟩ := (parts_eq_iff hcompiler hout).1 hparts
    refine ⟨?_, hprogram, hfeatures, hlibrary, hclasspathJar, hdesugared, hrules, hmainDex, hthreads⟩
    cases hplan : plan.invocation
    cases hother : other.invocation
    rw [hplan, hother] at hcompiler hout hminApi hclassfile hplatform hmodeling
    simp only at hcompiler hout hminApi hclassfile hplatform hmodeling
    rw [hcompiler, hout, hminApi, hclassfile, hplatform, hmodeling]
  · intro hsame
    have hinvocation := hsame.invocation
    have hcompiler : plan.invocation.compiler = other.invocation.compiler := by rw [hinvocation]
    have hout : plan.invocation.output = other.invocation.output := by rw [hinvocation]
    obtain ⟨hentry, hflag⟩ := compiler_eq_iff.1 hcompiler
    refine ⟨hentry, hflag, hsame.programJar, hout, hsame.featureJars,
      (parts_eq_iff hcompiler hout).2 ⟨hsame.libraryJar, hsame.classpathJar, hsame.desugaredLibrary,
        hsame.rules, hsame.mainDexRules, ?_, ?_, ?_, ?_, hsame.threads⟩⟩ <;> rw [hinvocation]

/-- A plan whose program and rules are named like flags. -/
def flagged (compiler : Compiler) (classpathJar : Option Path) : Plan where
  jvm := .plain
  systemProperties := []
  classpath := "r8.jar"
  invocation := ⟨compiler, none, ⟨"w/out.jar"⟩, false, false, false⟩
  workDirectory := ⟨"w"⟩
  programJar := ⟨"--compat"⟩
  featureJars := []
  libraryJar := none
  classpathJar := classpathJar
  desugaredLibrary := none
  rules := some ⟨"--pg-map-output"⟩
  mainDexRules := none
  threads := none
  passthrough := []

/-- A program named like the flag for compatibility mode does not hide the mode, and a class path that is
not passed does not show. -/
theorem arguments_flagged :
    (flagged .r8 none).arguments ≠ (flagged .r8full none).arguments ∧
      (flagged .l8 none).arguments = (flagged .l8 (some ⟨"classpath.jar"⟩)).arguments := by
  constructor
  · intro hsame
    have hpassed := (arguments_eq_iff_passesSame (flagged .r8 none) (flagged .r8full none) rfl rfl rfl
      rfl (by decide) (by decide)).1 hsame
    exact absurd hpassed.invocation (by decide)
  · exact (arguments_eq_iff_passesSame (flagged .l8 none) (flagged .l8 (some ⟨"classpath.jar"⟩)) rfl
      rfl rfl rfl (by decide) (by decide)).2
      ⟨rfl, rfl, rfl, rfl, fun h => absurd rfl h, rfl, fun _ => rfl, rfl, rfl⟩

end Plan

end DumpReplay
