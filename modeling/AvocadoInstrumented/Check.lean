import AvocadoInstrumented.Python

namespace AvocadoInstrumented
namespace Check

-- `selftests/check.py`: `main` picks groups of avocado's selftests from its options, runs their
-- suites in one job and compares the size of each suite with its entry of `TEST_SIZE`.

-- `s.split(sep)` for a one-character separator: the parts between separators, `[""]` for "".
def splitAll (sep : Char) : List Char → List (List Char)
  | [] => [[]]
  | c :: rest =>
      if c = sep then [] :: splitAll sep rest
      else (c :: (splitAll sep rest).headD []) :: (splitAll sep rest).tail

def pySplit (s : String) (sep : Char) : List String := (splitAll sep s.data).map String.mk

def basename (path : String) : String := (pySplit path '/').getLastD ""

-- Lines 19-43: how many tests each suite should have.
def TEST_SIZE : List (String × Nat) :=
  [("static-checks",7),("job-api-check-archive-file-exists",1),("job-api-check-category-directory-exists",1),
    ("job-api-check-directory-exists",2),("job-api-check-file-content",9),("job-api-check-file-exists",11),
    ("job-api-check-output-file",4),("job-api-check-tmp-directory-exists",1),("nrunner-interface",90),
    ("nrunner-requirement",28),("unit",699),("jobs",11),("functional-parallel",316),("functional-serial",7),
    ("optional-plugins",0),("optional-plugins-golang",2),("optional-plugins-html",3),("optional-plugins-robot",3),
    ("optional-plugins-varianter_cit",40),("optional-plugins-varianter_yaml_to_mux",50),("vmimage-variants",248),
    ("vmimage-tests",35),("pre-release",18)]

-- `TEST_SIZE[key]`, which raises `KeyError` for a missing key.
def item (sizes : List (String × Nat)) (key : String) : Except PyException Nat :=
  match sizes.lookup key with
  | some n => .ok n
  | none => .error (.builtin "KeyError" ("\x27" ++ key ++ "\x27"))

def addSize (sizes : List (String × Nat)) (key : String) (n : Nat) : List (String × Nat) :=
  sizes.map fun entry => if entry.1 = key then (entry.1,entry.2 + n) else entry

-- What `check.py` reads from the machine: which distributions `python_module_available` finds,
-- what `glob.glob` matches, the path of the script (`__file__`), and how the run of
-- `selftests/check_tmp_dirs` by `process.run` ends.
structure Machine where
  available : String → Bool
  glob : String → List String
  file : String
  checkTmpDirs : Except PyException Unit

-- Lines 810-821: every installed optional plugin adds its tests to "optional-plugins".
def optionalPlugins : List (String × String) :=
  [("avocado-framework-plugin-golang","optional-plugins-golang"),
    ("avocado-framework-plugin-result-html","optional-plugins-html"),
    ("avocado-framework-plugin-robot","optional-plugins-robot"),
    ("avocado-framework-plugin-varianter-cit","optional-plugins-varianter_cit"),
    ("avocado-framework-plugin-varianter-yaml-to-mux","optional-plugins-varianter_yaml_to_mux")]

def countOptional (machine : Machine) (sizes : List (String × Nat)) : List (String × Nat) :=
  optionalPlugins.foldl (fun sizes plugin =>
    if machine.available plugin.1 then addSize sizes "optional-plugins" ((sizes.lookup plugin.2).getD 0) else sizes)
    sizes

-- The namespace `parse_args` returns; `action="append"` keeps one string an occurrence.
structure Args where
  listFeatures : Bool := false
  skip : List String := []
  select : List String := []
  disablePluginChecks : List String := []
  deriving DecidableEq, Repr

inductive Group where
  | staticChecks
  | jobApi
  | nrunnerInterface
  | nrunnerRequirement
  | unit
  | jobs
  | functional
  | optionalPlugins
  | vmimage
  | preRelease
  deriving DecidableEq, Repr

def Group.name : Group → String
  | .staticChecks => "static-checks"
  | .jobApi => "job-api"
  | .nrunnerInterface => "nrunner-interface"
  | .nrunnerRequirement => "nrunner-requirement"
  | .unit => "unit"
  | .jobs => "jobs"
  | .functional => "functional"
  | .optionalPlugins => "optional-plugins"
  | .vmimage => "vmimage"
  | .preRelease => "pre-release"

-- Lines 795-808: the keys `args.dict_tests` starts with, and `select_only`.
def dictTestsKeys : List Group :=
  [.staticChecks,.jobApi,.nrunnerInterface,.nrunnerRequirement,.unit,.jobs,.functional,.optionalPlugins]
def selectOnly : List Group := [.vmimage,.preRelease]

-- Lines 823-829: only the first occurrence of an option is kept, split at its commas.
def firstSplit : List String → List String
  | [] => []
  | first :: _ => pySplit first ','

-- Lines 847-853 and 856-865: each name sets its key of `args.dict_tests` to `value`; the first
-- name that is no key of `keys` ends `main` with `exit(0)`.
def setLoop (keys : List Group) (value : Bool) (tests : Group → Bool) : List String → Except String (Group → Bool)
  | [] => .ok tests
  | elem :: rest =>
      match keys.find? (·.name == elem) with
      | some key => setLoop keys value (Function.update tests key value) rest
      | none => .error elem

-- Where lines 831-874 leave `main`.
inductive Selection where
  | features
  | invalid (elem : String)
  | tests (dictTests : Group → Bool)
  | wrong

def selection (listFeatures : Bool) (select skip : List String) : Selection :=
  if listFeatures then .features
  else if !select.isEmpty then
    match setLoop (dictTestsKeys ++ selectOnly) true (fun _ => false) select with
    | .ok tests => .tests tests
    | .error elem => .invalid elem
  else if !skip.isEmpty then
    match setLoop dictTestsKeys false (fun key => dictTestsKeys.contains key) skip with
    | .ok tests => .tests tests
    | .error elem => .invalid elem
  else if !(!skip.isEmpty || !select.isEmpty) then .tests fun key => dictTestsKeys.contains key
  else .wrong

theorem Group.name_injective : Function.Injective Group.name := by
  intro a b same
  cases a <;> cases b <;> first | rfl | exact absurd same (by decide)

theorem find_name {keys : List Group} {key : Group} {elem : String}
    (found : keys.find? (·.name == elem) = some key) : key ∈ keys ∧ key.name = elem :=
  ⟨List.mem_of_find?_eq_some found,by simpa using List.find?_some found⟩

theorem setLoop_ok (keys : List Group) (value : Bool) (tests : Group → Bool) (names : List String)
    (known : ∀ elem ∈ names, elem ∈ keys.map Group.name) :
    setLoop keys value tests names = .ok fun key => if key ∈ keys ∧ key.name ∈ names then value else tests key := by
  induction names generalizing tests with
  | nil => simp [setLoop]
  | cons elem rest ih =>
      obtain ⟨key,found⟩ : ∃ key, keys.find? (·.name == elem) = some key := by
        obtain ⟨key,member,named⟩ := List.mem_map.mp (known elem (List.mem_cons_self _ _))
        exact Option.isSome_iff_exists.mp (List.find?_isSome.mpr ⟨key,member,by simp [named]⟩)
      obtain ⟨member,rfl⟩ := find_name found
      simp only [setLoop,found]
      rw [ih _ fun elem inRest => known elem (List.mem_cons_of_mem _ inRest)]
      congr 1
      funext other
      by_cases same : other = key
      · subst same; simp [member]
      · have differs : other.name ≠ key.name := fun h => same (Group.name_injective h)
        simp [Function.update_noteq same,differs]

theorem setLoop_unknown (keys : List Group) (value : Bool) (tests : Group → Bool) (names : List String)
    (unknown : ∃ elem ∈ names, elem ∉ keys.map Group.name) : ∃ elem, setLoop keys value tests names = .error elem := by
  induction names generalizing tests with
  | nil => simp at unknown
  | cons elem rest ih =>
      rw [setLoop]
      split
      next key found =>
        obtain ⟨member,rfl⟩ := find_name found
        obtain ⟨other,inNames,missing⟩ := unknown
        rcases List.mem_cons.mp inNames with rfl | inRest
        · exact absurd (List.mem_map_of_mem _ member) missing
        · exact ih _ ⟨other,inRest,missing⟩
      next => exact ⟨elem,rfl⟩

-- What the options ask for, as the help text of `parse_args` lists the groups: `--select` runs
-- only the listed groups, `--skip` every group of `args.dict_tests` but the listed ones, and
-- neither runs those groups; `vmimage` and `pre-release` run only when selected. A name that is
-- no such group runs nothing.
def wanted (select skip : List String) : Option (Group → Bool) :=
  if select ≠ [] then
    if ∀ elem ∈ select, elem ∈ (dictTestsKeys ++ selectOnly).map Group.name then
      some fun key => select.contains key.name
    else none
  else if skip ≠ [] then
    if ∀ elem ∈ skip, elem ∈ dictTestsKeys.map Group.name then
      some fun key => dictTestsKeys.contains key && !skip.contains key.name
    else none
  else some fun key => dictTestsKeys.contains key

theorem mem_keys (key : Group) : key ∈ dictTestsKeys ++ selectOnly := by
  cases key <;> decide

theorem selection_wanted (select skip : List String) :
    match wanted select skip with
    | some tests => selection false select skip = .tests tests
    | none => ∃ elem, selection false select skip = .invalid elem := by
  by_cases selecting : select = []
  · subst selecting
    by_cases skipping : skip = []
    · subst skipping; rfl
    · have chosen : selection false [] skip =
          match setLoop dictTestsKeys false (fun key => dictTestsKeys.contains key) skip with
          | .ok tests => .tests tests
          | .error elem => .invalid elem := by
        simp [selection,skipping]
      rw [wanted,if_neg fun h => h rfl,if_pos skipping]
      by_cases known : ∀ elem ∈ skip, elem ∈ dictTestsKeys.map Group.name
      · rw [if_pos known,chosen,setLoop_ok _ _ _ _ known]
        dsimp only
        congr 1; funext key; by_cases member : key ∈ dictTestsKeys <;> simp [member]
      · obtain ⟨elem,stops⟩ := setLoop_unknown dictTestsKeys false (fun key => dictTestsKeys.contains key) skip
          (by simpa only [not_forall,exists_prop] using known)
        rw [if_neg known,chosen,stops]; exact ⟨elem,rfl⟩
  · have chosen : selection false select skip =
        match setLoop (dictTestsKeys ++ selectOnly) true (fun _ => false) select with
        | .ok tests => .tests tests
        | .error elem => .invalid elem := by
      simp [selection,selecting]
    rw [wanted,if_pos selecting]
    by_cases known : ∀ elem ∈ select, elem ∈ (dictTestsKeys ++ selectOnly).map Group.name
    · rw [if_pos known,chosen,setLoop_ok _ _ _ _ known]
      dsimp only
      congr 1; funext key; simp [mem_keys key]
    · obtain ⟨elem,stops⟩ := setLoop_unknown (dictTestsKeys ++ selectOnly) true (fun _ => false) select
        (by simpa only [not_forall,exists_prop] using known)
      rw [if_neg known,chosen,stops]; exact ⟨elem,rfl⟩

-- A `TestSuite` as this file reads it, with its `run.dict_variants`.
structure Suite where
  name : String
  references : List String
  variants : List Dict
  deriving DecidableEq, Repr

-- A list or a dict in a variant, by its class and truth value: no line here reads inside it.
def pyList : PyValue := .object "list" true none
def pyDict : PyValue := .object "dict" true none

-- Lines 609-641: the runners the interface check covers.
def interfaceVariants : List Dict :=
  ["avocado-runner-dry-run","avocado-runner-noop","avocado-runner-exec-test","avocado-runner-python-unittest",
    "avocado-runner-avocado-instrumented","avocado-runner-tap","avocado-runner-podman-image","avocado-runner-pip",
    "avocado-runner-vmimage"].map fun runner => [("runner",.str runner)]

-- Line 608: the tests `nrunner_interface.py` runs for one runner.
def nrunnerInterfaceSize : Nat := 10

-- Lines 643-674: a runner whose plugin is installed and whose checks are not disabled joins the
-- interface check, and its tests join the suite's `TEST_SIZE` entry.
def optionalRunners : List (String × String × String) :=
  [("avocado-framework-plugin-golang","golang","avocado-runner-golang"),
    ("avocado-framework-plugin-robot","robot","avocado-runner-robot"),
    ("avocado-framework-plugin-ansible","ansible","avocado-runner-ansible-module")]

def addRunner (machine : Machine) (disabled : List String) (acc : List Dict × List (String × Nat))
    (runner : String × String × String) : List Dict × List (String × Nat) :=
  if machine.available runner.1 && !disabled.contains runner.2.1 then
    (acc.1 ++ [[("runner",.str runner.2.2)]],addSize acc.2 "nrunner-interface" nrunnerInterfaceSize)
  else acc

-- Lines 740-749: the tests of every optional plugin whose checks are not disabled.
def optionalReferences (machine : Machine) (disabled : List String) : List String :=
  (machine.glob "optional_plugins/*").flatMap fun plugin =>
    if disabled.contains (basename plugin) then [] else machine.glob (plugin ++ "/tests/*")

-- Lines 591-790: the suites of the selected groups, and `TEST_SIZE` with the optional runners'
-- tests added, which happens whether or not the interface check is selected.
def create_suites (machine : Machine) (disabled : List String) (tests : Group → Bool)
    (sizes : List (String × Nat)) : List Suite × List (String × Nat) :=
  let interface := optionalRunners.foldl (addRunner machine disabled) (interfaceVariants,sizes)
  ((if tests .staticChecks then [⟨"static-checks",machine.glob "selftests/*.sh" ++
      ["static-checks/check-import-order","static-checks/check-style","static-checks/check-lint"],[]⟩] else []) ++
    (if tests .nrunnerInterface then
      [⟨"nrunner-interface",["selftests/functional/nrunner_interface.py"],interface.1⟩] else []) ++
    (if tests .nrunnerRequirement then [⟨"nrunner-requirement",["selftests/functional/serial/requirements.py"],
      ["process","podman","lxc","remote"].map fun spawner => [("spawner",.str spawner)]⟩] else []) ++
    (if tests .unit then [⟨"unit",["selftests/unit/"],[]⟩] else []) ++
    (if tests .jobs then [⟨"jobs",["selftests/jobs/"],[]⟩] else []) ++
    (if tests .functional then
      [⟨"functional-parallel",machine.glob "selftests/functional/*.py" ++
        ["selftests/functional/utils","selftests/functional/plugin"],[]⟩,
       ⟨"functional-serial",["selftests/functional/serial/"],[]⟩] else []) ++
    (if tests .optionalPlugins then [⟨"optional-plugins",optionalReferences machine disabled,[]⟩] else []) ++
    (if tests .vmimage then
      [⟨"vmimage-tests",["selftests/vmimage/tests"],[]⟩,
       ⟨"vmimage-variants",["selftests/vmimage/variants/vmimage.py"],[]⟩] else []) ++
    (if tests .preRelease then [⟨"pre-release",["selftests/unit","selftests/functional"],[]⟩] else []),
    interface.2)

-- Lines 277-588: one suite for each feature of the job API, each running one test method of
-- `JobAPIFeaturesTest` once a variant. The HTML result plugin adds variants to two of them.
def create_suite_job_api (machine : Machine) (disabled : List String) : List Suite :=
  let getRef := fun method => [machine.file ++ ":JobAPIFeaturesTest.test_" ++ method]
  let html := machine.available "avocado-framework-plugin-result-html" && !disabled.contains "html"
  [⟨"job-api-check-archive-file-exists",getRef "check_archive_file_exists",
      [[("namespace",.str "run.results.archive"),("value",.bool true),("assert",.bool true)]]⟩,
    ⟨"job-api-check-category-directory-exists",getRef "check_category_directory_exists",
      [[("namespace",.str "run.job_category"),("value",.str "foo"),("assert",.bool true)]]⟩,
    ⟨"job-api-check-directory-exists",getRef "check_directory_exists",
      [[("namespace",.str "sysinfo.collect.enabled"),("value",.bool true),("directory",.str "sysinfo"),
          ("assert",.bool true)],
        [("namespace",.str "sysinfo.collect.enabled"),("value",.bool false),("directory",.str "sysinfo"),
          ("assert",.bool false)]]⟩,
    ⟨"job-api-check-file-content",getRef "check_file_content",
      [[("namespace",.str "job.output.loglevel"),("value",.str "INFO"),("file",.str "job.log"),
          ("content",.str "DEBUG\\| Test metadata:$"),("assert",.bool false),("regex",.bool true)],
        [("namespace",.str "job.run.result.tap.include_logs"),("value",.bool true),("file",.str "results.tap"),
          ("reference",pyList),("content",.str "PASS 1-examples/tests/passtest.py:PassTest.test"),
          ("assert",.bool true)],
        [("namespace",.str "job.run.result.tap.include_logs"),("value",.bool false),("file",.str "results.tap"),
          ("content",.str "Command \x27examples/tests/true\x27 finished with 0"),("assert",.bool false)],
        [("namespace",.str "job.run.result.xunit.job_name"),("value",.str "foo"),("file",.str "results.xml"),
          ("content",.str "name=\"foo\""),("assert",.bool true)],
        [("namespace",.str "job.run.result.xunit.max_test_log_chars"),("value",.int 1),("file",.str "results.xml"),
          ("content",.str "--[ CUT DUE TO XML PER TEST LIMIT ]--"),("assert",.bool true),("reference",pyList),
          ("exit_code",.int 1)],
        [("namespace",.str "run.failfast"),("value",.bool true),("file",.str "results.json"),
          ("content",.str "\"skip\": 1"),("assert",.bool true),("reference",pyList),("exit_code",.int 9),
          ("extra_job_config",pyDict)],
        [("namespace",.str "run.ignore_missing_references"),("value",.str "on"),("file",.str "results.json"),
          ("content",.str "\"pass\": 1"),("assert",.bool true),("reference",pyList)],
        [("namespace",.str "run.unique_job_id"),("value",.str "abcdefghi"),("file",.str "job.log"),
          ("content",.str "Job ID: abcdefghi"),("assert",.bool true)],
        [("namespace",.str "job.run.timeout"),("value",.int 1),("reference",pyList),("file",.str "job.log"),
          ("content",.str "RuntimeError: Test interrupted by SIGTERM"),("assert",.bool true),
          ("exit_code",.int 8)]]⟩,
    ⟨"job-api-check-file-exists",getRef "check_file_exists",
      [[("namespace",.str "job.run.result.json.enabled"),("value",.bool true),("file",.str "results.json"),
          ("assert",.bool true)],
        [("namespace",.str "job.run.result.json.enabled"),("value",.bool false),("file",.str "results.json"),
          ("assert",.bool false)],
        [("namespace",.str "job.run.result.tap.enabled"),("value",.bool true),("file",.str "results.tap"),
          ("assert",.bool true)],
        [("namespace",.str "job.run.result.tap.enabled"),("value",.bool false),("file",.str "results.tap"),
          ("assert",.bool false)],
        [("namespace",.str "job.run.result.xunit.enabled"),("value",.bool true),("file",.str "results.xml"),
          ("assert",.bool true)],
        [("namespace",.str "job.run.result.xunit.enabled"),("value",.bool false),("file",.str "results.xml"),
          ("assert",.bool false)],
        [("namespace",.str "run.dry_run.enabled"),("value",.bool true),("file",.str "job.log"),
          ("assert",.bool false)],
        [("namespace",.str "run.dry_run.no_cleanup"),("value",.bool true),("file",.str "job.log"),
          ("assert",.bool true)],
        [("namespace",.str "plugins.disable"),("value",pyList),("file",.str "result.xml"),("assert",.bool false)]] ++
      (if html then
        [[("namespace",.str "job.run.result.html.enabled"),("value",.bool true),("file",.str "results.html"),
            ("assert",.bool true)],
          [("namespace",.str "job.run.result.html.enabled"),("value",.bool false),("file",.str "results.html"),
            ("assert",.bool false)]] else [])⟩,
    ⟨"job-api-check-output-file",getRef "check_output_file",
      [[("namespace",.str "job.run.result.json.output"),("file",.str "custom.json"),("assert",.bool true)],
        [("namespace",.str "job.run.result.tap.output"),("file",.str "custom.tap"),("assert",.bool true)],
        [("namespace",.str "job.run.result.xunit.output"),("file",.str "custom.xml"),("assert",.bool true)]] ++
      (if html then
        [[("namespace",.str "job.run.result.html.output"),("file",.str "custom.html"),("assert",.bool true)]]
      else [])⟩,
    ⟨"job-api-check-tmp-directory-exists",getRef "check_tmp_directory_exists",
      [[("namespace",.str "run.keep_tmp"),("value",.bool true),("assert",.bool true)]]⟩]

-- What the job gives back, and the entries of the directory over its log directory before and after.
structure JobReport where
  exitCode : Nat
  size : Suite → Nat
  dirsBefore : Nat
  dirsAfter : Nat

-- Lines 905-908: a suite whose size is not its `TEST_SIZE` entry turns a zero code into 1.
def checkSizes (sizes : List (String × Nat)) (size : Suite → Nat) (code : Nat) :
    List Suite → Except PyException Nat
  | [] => .ok code
  | suite :: rest => do
      let expected ← item sizes suite.name
      checkSizes sizes size (if size suite ≠ expected ∧ code = 0 then 1 else code) rest

-- How `main` ends: the suites of the job it ran, and its exit status.
structure Outcome where
  ran : Option (List Suite)
  exit : Except PyException Nat

-- Lines 793-921, with the job given by what it reports for the suites it is handed.
def main (machine : Machine) (args : Args) (job : List Suite → JobReport) : Outcome :=
  let sizes := countOptional machine TEST_SIZE
  let disabled := firstSplit args.disablePluginChecks
  match selection args.listFeatures (firstSplit args.select) (firstSplit args.skip) with
  | .features | .invalid _ => ⟨none,.ok 0⟩
  | .wrong => ⟨none,.ok 1⟩
  | .tests tests =>
      let built := create_suites machine disabled tests sizes
      let suites := built.1 ++ if tests .jobApi then create_suite_job_api machine disabled else []
      let report := job suites
      let code := if report.dirsBefore ≠ report.dirsAfter ∧ report.exitCode = 0 then 1 else report.exitCode
      ⟨some suites,(checkSizes built.2 report.size code suites).bind fun code => machine.checkTmpDirs.map fun _ => code⟩

-- The groups in build order, and the suites each adds.
def buildOrder : List Group :=
  [.staticChecks,.nrunnerInterface,.nrunnerRequirement,.unit,.jobs,.functional,.optionalPlugins,.vmimage,.preRelease,
    .jobApi]

def Group.suiteNames : Group → List String
  | .staticChecks => ["static-checks"]
  | .jobApi =>
      ["job-api-check-archive-file-exists","job-api-check-category-directory-exists","job-api-check-directory-exists",
        "job-api-check-file-content","job-api-check-file-exists","job-api-check-output-file",
        "job-api-check-tmp-directory-exists"]
  | .nrunnerInterface => ["nrunner-interface"]
  | .nrunnerRequirement => ["nrunner-requirement"]
  | .unit => ["unit"]
  | .jobs => ["jobs"]
  | .functional => ["functional-parallel","functional-serial"]
  | .optionalPlugins => ["optional-plugins"]
  | .vmimage => ["vmimage-tests","vmimage-variants"]
  | .preRelease => ["pre-release"]

theorem flatMap_filter (l : List α) (p : α → Bool) (f : α → List β) :
    (l.filter p).flatMap f = l.flatMap fun a => if p a then f a else [] := by
  induction l with
  | nil => rfl
  | cons a l ih => by_cases h : p a <;> simp [List.filter_cons,h,ih]

theorem built_names (machine : Machine) (disabled : List String) (tests : Group → Bool) (sizes : List (String × Nat)) :
    ((create_suites machine disabled tests sizes).1 ++
        if tests .jobApi then create_suite_job_api machine disabled else []).map (·.name) =
      (buildOrder.filter tests).flatMap Group.suiteNames := by
  rw [flatMap_filter]
  simp [create_suites,create_suite_job_api,buildOrder,Group.suiteNames,apply_ite (List.map Suite.name)]

@[simp] theorem lookup_addSize (sizes : List (String × Nat)) (key name : String) (n : Nat) :
    (addSize sizes key n).lookup name = (sizes.lookup name).map fun m => if name = key then m + n else m := by
  induction sizes with
  | nil => rfl
  | cons entry rest ih =>
      obtain ⟨k,v⟩ := entry
      have head : addSize ((k,v) :: rest) key n = (if k = key then (k,v + n) else (k,v)) :: addSize rest key n := rfl
      rw [head]
      by_cases here : name = k
      · subst here; by_cases keyed : name = key <;> simp [keyed]
      · have other : (name == k) = false := by simpa using here
        split <;> simp [List.lookup_cons,other,ih]

theorem countOptional_keeps (P : List (String × Nat) → Prop) (machine : Machine) (sizes : List (String × Nat))
    (start : P sizes) (adds : ∀ t n, P t → P (addSize t "optional-plugins" n)) : P (countOptional machine sizes) := by
  unfold countOptional
  induction optionalPlugins generalizing sizes with
  | nil => exact start
  | cons plugin rest ih => exact ih _ (by dsimp only; split <;> [exact adds _ _ start; exact start])

theorem runners_keep (P : List (String × Nat) → Prop) (machine : Machine) (disabled : List String)
    (runners : List (String × String × String)) (acc : List Dict × List (String × Nat)) (start : P acc.2)
    (adds : ∀ t, P t → P (addSize t "nrunner-interface" nrunnerInterfaceSize)) :
    P (runners.foldl (addRunner machine disabled) acc).2 := by
  induction runners generalizing acc with
  | nil => exact start
  | cons runner rest ih => exact ih _ (by unfold addRunner; split <;> [exact adds _ start; exact start])

-- The `TEST_SIZE` `main` compares with, after lines 643-674 and 810-821.
def expectedSizes (machine : Machine) (disabled : List String) : List (String × Nat) :=
  (optionalRunners.foldl (addRunner machine disabled) (interfaceVariants,countOptional machine TEST_SIZE)).2

theorem expectedSizes_sized (machine : Machine) (disabled : List String) (name : String) :
    ((expectedSizes machine disabled).lookup name).isSome = (TEST_SIZE.lookup name).isSome :=
  runners_keep (fun t => (t.lookup name).isSome = (TEST_SIZE.lookup name).isSome) machine disabled _ _
    (countOptional_keeps (fun t => (t.lookup name).isSome = (TEST_SIZE.lookup name).isSome) machine _ rfl
      fun _ _ same => by simpa using same)
    fun _ same => by simpa using same

theorem expectedSizes_other (machine : Machine) (disabled : List String) (name : String)
    (other : name ≠ "optional-plugins" ∧ name ≠ "nrunner-interface") :
    (expectedSizes machine disabled).lookup name = TEST_SIZE.lookup name :=
  runners_keep (fun t => t.lookup name = TEST_SIZE.lookup name) machine disabled _ _
    (countOptional_keeps (fun t => t.lookup name = TEST_SIZE.lookup name) machine _ rfl
      fun _ _ same => by simp [same,other.1])
    fun _ same => by simp [same,other.2]

theorem suiteNames_sized : ∀ name ∈ buildOrder.flatMap Group.suiteNames, (TEST_SIZE.lookup name).isSome := by
  decide

theorem checkSizes_ok (sizes : List (String × Nat)) (size : Suite → Nat) (code : Nat) (suites : List Suite)
    (sized : ∀ s ∈ suites, (sizes.lookup s.name).isSome) :
    checkSizes sizes size code suites =
      .ok (if code = 0 ∧ ∃ s ∈ suites, sizes.lookup s.name ≠ some (size s) then 1 else code) := by
  induction suites generalizing code with
  | nil => simp [checkSizes]
  | cons s rest ih =>
      obtain ⟨n,entry⟩ := Option.isSome_iff_exists.mp (sized s (List.mem_cons_self _ _))
      have expected : item sizes s.name = .ok n := by simp [item,entry]
      rw [checkSizes,expected]
      show checkSizes sizes size (if size s ≠ n ∧ code = 0 then 1 else code) rest = _
      rw [ih _ fun s' member => sized s' (List.mem_cons_of_mem _ member)]
      by_cases zero : code = 0
      · subst zero
        by_cases same : size s = n
        · simp [same,entry]
        · simp [same,entry,Ne.symm same]
      · simp [zero]

section
variable (machine : Machine) (args : Args) (job : List Suite → JobReport)

theorem main_ran {suites : List Suite} (ran : (main machine args job).ran = some suites) :
    ∃ tests, selection args.listFeatures (firstSplit args.select) (firstSplit args.skip) = .tests tests ∧
      suites = (create_suites machine (firstSplit args.disablePluginChecks) tests (countOptional machine TEST_SIZE)).1 ++
        if tests .jobApi then create_suite_job_api machine (firstSplit args.disablePluginChecks) else [] := by
  rcases picked : selection args.listFeatures (firstSplit args.select) (firstSplit args.skip) with _ | _ | tests | _ <;>
    simp only [main,picked] at ran
  · cases ran
  · cases ran
  · exact ⟨tests,rfl,(Option.some.inj ran).symm⟩
  · cases ran

theorem built_sized (disabled : List String) (tests : Group → Bool) :
    ∀ s ∈ (create_suites machine disabled tests (countOptional machine TEST_SIZE)).1 ++
        (if tests .jobApi then create_suite_job_api machine disabled else []),
      ((expectedSizes machine disabled).lookup s.name).isSome := by
  intro s member
  rw [expectedSizes_sized]
  have named := List.mem_map_of_mem Suite.name member
  rw [built_names,flatMap_filter] at named
  obtain ⟨group,inOrder,inNames⟩ := List.mem_flatMap.mp named
  exact suiteNames_sized _ (List.mem_flatMap.mpr ⟨group,inOrder,by split at inNames <;> simp_all⟩)

theorem main_exit_of_tests {tests : Group → Bool} {suites : List Suite}
    (picked : selection args.listFeatures (firstSplit args.select) (firstSplit args.skip) = .tests tests)
    (same : suites = (create_suites machine (firstSplit args.disablePluginChecks) tests (countOptional machine TEST_SIZE)).1 ++
        if tests .jobApi then create_suite_job_api machine (firstSplit args.disablePluginChecks) else []) :
    (main machine args job).exit = machine.checkTmpDirs.map fun _ =>
      if (job suites).exitCode ≠ 0 then (job suites).exitCode
      else if (job suites).dirsBefore ≠ (job suites).dirsAfter ∨ ∃ s ∈ suites,
          (expectedSizes machine (firstSplit args.disablePluginChecks)).lookup s.name ≠ some ((job suites).size s)
        then 1 else 0 := by
  have sized := built_sized machine (firstSplit args.disablePluginChecks) tests
  simp only [main,picked,← same] at sized ⊢
  rw [show (create_suites machine (firstSplit args.disablePluginChecks) tests (countOptional machine TEST_SIZE)).2 =
    expectedSizes machine (firstSplit args.disablePluginChecks) from rfl,checkSizes_ok _ _ _ _ sized]
  show machine.checkTmpDirs.map _ = machine.checkTmpDirs.map _
  congr; funext
  by_cases passed : (job suites).exitCode = 0 <;> by_cases clean : (job suites).dirsBefore = (job suites).dirsAfter <;>
    simp [passed,clean]
end

-- A machine with no optional plugin installed, on which `check_tmp_dirs` passes.
def bareMachine : Machine := ⟨fun _ => false,fun _ => [],"selftests/check.py",.ok ()⟩

-- A job that passes, runs one test a variant of each suite and leaves no directory behind.
def variantJob (_ : List Suite) : JobReport := ⟨0,fun s => s.variants.length,3,3⟩

section
variable (machine : Machine) (args : Args) (job : List Suite → JobReport)

-- For every machine and job: `main` hands the job exactly the suites of the groups the options
-- ask for, in build order, or no job when a name is unknown. Only the first `--select` or
-- `--skip` counts: `firstSplit` drops the later ones.
theorem main_runs_wanted (plain : args.listFeatures = false) :
    (main machine args job).ran.map (·.map (·.name)) =
      (wanted (firstSplit args.select) (firstSplit args.skip)).map fun tests =>
        (buildOrder.filter tests).flatMap Group.suiteNames := by
  have picked := selection_wanted (firstSplit args.select) (firstSplit args.skip)
  rcases h : wanted (firstSplit args.select) (firstSplit args.skip) with _ | tests <;> rw [h] at picked
  · obtain ⟨elem,picked⟩ := picked
    simp only [main,plain,picked,Option.map_none']
  · simp only [main,plain,picked,Option.map_some',built_names]

end

theorem select_runs_first_option :
    ({select := ["unit,jobs","functional"]} : Args).listFeatures = false ∧
      (main bareMachine {select := ["unit,jobs","functional"]} variantJob).ran.map (·.map (·.name)) =
        (wanted (firstSplit ["unit,jobs","functional"]) (firstSplit [])).map fun tests =>
          (buildOrder.filter tests).flatMap Group.suiteNames :=
  ⟨rfl,main_runs_wanted bareMachine {select := ["unit,jobs","functional"]} variantJob rfl⟩

theorem file_exists_variants (machine : Machine) (disabled : List String) (tests : Group → Bool) (s : Suite)
    (member : s ∈ (create_suites machine disabled tests (countOptional machine TEST_SIZE)).1 ++
      if tests .jobApi then create_suite_job_api machine disabled else [])
    (named : s.name = "job-api-check-file-exists") :
    s.variants.length =
      if machine.available "avocado-framework-plugin-result-html" && !disabled.contains "html" then 11 else 9 := by
  simp only [create_suites,create_suite_job_api,List.mem_append,List.mem_ite_nil_right,List.mem_cons,
    List.mem_singleton,List.not_mem_nil,or_false] at member
  rcases member with (((((((((⟨-,rfl⟩ | ⟨-,rfl⟩) | ⟨-,rfl⟩) | ⟨-,rfl⟩) | ⟨-,rfl⟩) | ⟨-,rfl | rfl⟩) | ⟨-,rfl⟩) |
      ⟨-,rfl | rfl⟩) | ⟨-,rfl⟩) | ⟨-,rfl | rfl | rfl | rfl | rfl | rfl | rfl⟩) <;>
    first | (dsimp only at named; exact absurd named (by decide)) | split <;> simp_all

-- Without the HTML result plugin's checks, a run handing the job "job-api-check-file-exists"
-- never ends with 0: its nine tests against the eleven of `TEST_SIZE`.
theorem main_fails_without_html (machine : Machine) (args : Args) (job : List Suite → JobReport) (suites : List Suite)
    (ran : (main machine args job).ran = some suites)
    (noHtml : machine.available "avocado-framework-plugin-result-html" = false ∨
      "html" ∈ firstSplit args.disablePluginChecks)
    (s : Suite) (member : s ∈ suites) (named : s.name = "job-api-check-file-exists")
    (oneEach : (job suites).size s = s.variants.length) :
    (main machine args job).exit ≠ .ok 0 := by
  obtain ⟨tests,picked,same⟩ := main_ran machine args job ran
  have nine : s.variants.length = 9 := by
    rw [file_exists_variants machine _ tests s (same ▸ member) named]
    rcases noHtml with missing | disabled
    · simp [missing]
    · simp [disabled]
  have eleven : (expectedSizes machine (firstSplit args.disablePluginChecks)).lookup s.name = some 11 := by
    rw [named,expectedSizes_other _ _ _ ⟨by decide,by decide⟩]; rfl
  have mismatch : ∃ s ∈ suites, (expectedSizes machine (firstSplit args.disablePluginChecks)).lookup s.name ≠
      some ((job suites).size s) := ⟨s,member,by rw [eleven,oneEach,nine]; decide⟩
  rw [main_exit_of_tests machine args job picked same]
  cases machine.checkTmpDirs with
  | error e => nofun
  | ok _ =>
      intro stops
      split_ifs at stops with failed matched
      · exact failed (Except.ok.inj stops)
      · cases stops
      · exact matched (.inr mismatch)

theorem job_api_without_html_fails :
    (main bareMachine {select := ["job-api"]} variantJob).ran = some (create_suite_job_api bareMachine []) ∧
      (bareMachine.available "avocado-framework-plugin-result-html" = false ∨ "html" ∈ firstSplit []) ∧
      (create_suite_job_api bareMachine []).get ⟨4,by decide⟩ ∈ create_suite_job_api bareMachine [] ∧
      ((create_suite_job_api bareMachine []).get ⟨4,by decide⟩).name = "job-api-check-file-exists" ∧
      (variantJob (create_suite_job_api bareMachine [])).size ((create_suite_job_api bareMachine []).get ⟨4,by decide⟩) =
        ((create_suite_job_api bareMachine []).get ⟨4,by decide⟩).variants.length ∧
      (main bareMachine {select := ["job-api"]} variantJob).exit ≠ .ok 0 :=
  have ran : (main bareMachine {select := ["job-api"]} variantJob).ran = some (create_suite_job_api bareMachine []) := rfl
  have member := List.get_mem (create_suite_job_api bareMachine []) 4 (by decide)
  ⟨ran,.inl rfl,member,rfl,rfl,main_fails_without_html bareMachine {select := ["job-api"]} variantJob _ ran (.inl rfl) _
    member rfl rfl⟩

end Check
end AvocadoInstrumented
