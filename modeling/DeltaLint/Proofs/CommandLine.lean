import DeltaLint.CommandLine
import Mathlib.Data.List.Basic

/-
  DeltaLint.Proofs.CommandLine — arguments that spell options, and what is read from them.

  Options can be spelled in many ways (`Options.SpelledBy`): a flag by its name, or some of them by letters
  behind one hyphen; in any order, with files between them as long as their names do not begin with a
  hyphen; and after two hyphens the other files, whatever their names. Reading goes from left to right and has
  taken in, at each point, what was spelled so far (`Options.including`), where files that are still pending
  count as taken in (`Reading.taken`). Each argument adds what it spells (`argument_adds`), so the end has all.

  Proved:
  - `argument_adds`: an argument adds what it says.
  - `arguments_spells`: arguments add what they spell.
  - `spelledBy_spelling`: all options can be spelled.
  - `parse_spelled`: options are read from each of their spellings.
  - `parse_noColour`: `--no-color` switches the colours off and does nothing else.
-/

namespace DeltaLint

namespace CommandLine

/-! ## Spelling -/

/-- What a flag is called after two hyphens. -/
def Flag.long : Flag → String
  | force => "force"
  | tracked => "tracked"
  | lastCommit => "last-commit"
  | json => "json"
  | pretty => "pretty"
  | noColour => "no-color"
  | verbose => "verbose"
  | help => "help"
  | version => "version"

/-- What a flag is called after one hyphen, if anything. -/
def Flag.letter? : Flag → Option Char
  | force => some 'f'
  | tracked => some 't'
  | verbose => some 'v'
  | help => some 'h'
  | version => some 'V'
  | _ => none

def Flag.all : List Flag := [.force, .tracked, .lastCommit, .json, .pretty, .noColour, .verbose, .help, .version]

theorem Flag.mem_all (f : Flag) : f ∈ all := by
  cases f with
  | _ => decide

theorem Flag.nodup_all : all.Nodup := by decide

theorem Flag.ofShort?_of_letter? {f : Flag} {c : Char} (h : f.letter? = some c) : ofShort? c = some f := by
  cases f with
  | lastCommit | json | pretty | noColour => cases h
  | _ =>
    cases h
    rfl

/-- No flag is called by a hyphen. -/
theorem hyphen_not_mem {flags : List Flag} {letters : List Char} (h : flags.map Flag.letter? = letters.map some) :
    '-' ∉ letters := by
  intro hmem
  have hmem' : some '-' ∈ flags.map Flag.letter? := h ▸ List.mem_map_of_mem hmem
  obtain ⟨f, -, hf⟩ := List.mem_map.mp hmem'
  cases f with
  | _ => cases hf

/-- The argument says these flags, configurations and files, each in order. -/
inductive Says : String → List Flag → List String → List String → Prop
  | long (f : Flag) : Says ("--" ++ f.long) [f] [] []
  /-- One letter or more behind one hyphen. -/
  | short {flags : List Flag} {letters : List Char} (hsome : flags ≠ [])
      (hletters : flags.map Flag.letter? = letters.map some) : Says (String.ofList ('-' :: letters)) flags [] []
  | config (path : String) : Says ("--config=" ++ path) [] [path] []
  /-- A file that is not called like an option. -/
  | file {name : String} (hname : name.toList.head? ≠ some '-') : Says name [] [] [name]

/-- What says something is not two hyphens alone. -/
theorem Says.ne_hyphens {a : String} {flags : List Flag} {configs files : List String} (h : Says a flags configs files) :
    a ≠ "--" := by
  cases h with
  | long f =>
    cases f with
    | _ => decide
  | short _ hletters =>
    intro hhyphens
    have hrest := (List.cons.inj (String.ofList_injective hhyphens)).2
    exact hyphen_not_mem hletters (hrest ▸ List.mem_cons_self)
  | config path =>
    intro hhyphens
    have hlength := congrArg (·.toList.length) hhyphens
    rw [String.toList_append, List.length_append] at hlength
    have hnine : "--config=".toList.length = 9 := rfl
    have htwo : "--".toList.length = 2 := rfl
    omega
  | file hname =>
    rintro rfl
    exact hname rfl

/-- The arguments spell these flags, configurations and files, each in order. -/
inductive Spells : List String → List Flag → List String → List String → Prop
  | done : Spells [] [] [] []
  /-- After two hyphens all arguments are files. -/
  | rest (files : List String) : Spells ("--" :: files) [] [] files
  | next {a : String} {args : List String} {flags flags' : List Flag} {configs configs' files files' : List String}
      (hsaid : Says a flags configs files) (hrest : Spells args flags' configs' files') :
      Spells (a :: args) (flags ++ flags') (configs ++ configs') (files ++ files')

end CommandLine

open CommandLine

namespace Options

def has (o : Options) : Flag → Bool
  | .force => o.force
  | .tracked => o.tracked
  | .lastCommit => o.lastCommit
  | .json => o.json
  | .pretty => o.pretty
  | .noColour => o.noColour
  | .verbose => o.verbose
  | .help | .version => false

/-- The arguments spell the options, each flag that is set once. -/
def SpelledBy (o : Options) (args : List String) : Prop :=
  ∃ flags, Spells args flags o.config.toList o.files ∧ flags.Nodup ∧ ∀ f, f ∈ flags ↔ o.has f = true

/-! ## Taking in -/

/-- The options with some flags set, the last of the configurations, and more files. -/
def including (o : Options) (flags : List Flag) (configs files : List String) : Options where
  files := o.files ++ files
  force := o.force || flags.contains .force
  tracked := o.tracked || flags.contains .tracked
  lastCommit := o.lastCommit || flags.contains .lastCommit
  json := o.json || flags.contains .json
  pretty := o.pretty || flags.contains .pretty
  noColour := o.noColour || flags.contains .noColour
  verbose := o.verbose || flags.contains .verbose
  config := configs.getLast?.or o.config

variable {o : Options} {flags flags' : List Flag} {configs configs' files files' : List String}

theorem including_nothing (o : Options) : o.including [] [] [] = o := by
  simp [including]

theorem including_including : (o.including flags configs files).including flags' configs' files' =
    o.including (flags ++ flags') (configs ++ configs') (files ++ files') := by
  simp [including, Bool.or_assoc, List.getLast?_append, Option.or_assoc]

theorem has_including_iff {f : Flag} (hf : f ≠ .help ∧ f ≠ .version) :
    (o.including flags configs files).has f = true ↔ o.has f = true ∨ f ∈ flags := by
  cases f with
  | help => exact absurd rfl hf.1
  | version => exact absurd rfl hf.2
  | _ => simp [has, including]

/-- These flags, configurations and files can be taken in: what can be given once is not there yet, and nothing is
empty. -/
structure Takes (o : Options) (flags : List Flag) (configs files : List String) : Prop where
  once : flags.Nodup
  unset : ∀ f ∈ flags, o.has f = false
  proper : ∀ f ∈ flags, f ≠ .help ∧ f ≠ .version
  config : configs = [] ∨ o.config = none ∧ ∃ path, configs = [path] ∧ path ≠ ""
  named : ∀ name ∈ files, name ≠ ""

/-- What can be taken in can be taken in part by part. -/
theorem Takes.split (h : o.Takes (flags ++ flags') (configs ++ configs') (files ++ files')) :
    o.Takes flags configs files ∧ (o.including flags configs files).Takes flags' configs' files' := by
  obtain ⟨honce, honce', happart⟩ := List.nodup_append.mp h.once
  have hconfig : (configs = [] ∨ o.config = none ∧ ∃ path, configs = [path] ∧ path ≠ "") ∧
      (configs' = [] ∨
        (o.including flags configs files).config = none ∧ ∃ path, configs' = [path] ∧ path ≠ "") := by
    rcases h.config with hnone | ⟨hunset, path, hone, hpath⟩
    · obtain ⟨rfl, rfl⟩ := List.append_eq_nil_iff.mp hnone
      exact ⟨Or.inl rfl, Or.inl rfl⟩
    · rcases List.append_eq_singleton_iff.mp hone with ⟨rfl, rfl⟩ | ⟨rfl, rfl⟩
      · exact ⟨Or.inl rfl, Or.inr ⟨by simp [including, hunset], path, rfl, hpath⟩⟩
      · exact ⟨Or.inr ⟨hunset, path, rfl, hpath⟩, Or.inl rfl⟩
  refine ⟨⟨honce, fun f hf => h.unset f (List.mem_append_left _ hf), fun f hf => h.proper f (List.mem_append_left _ hf),
    hconfig.1, fun name hname => h.named name (List.mem_append_left _ hname)⟩,
    ⟨honce', fun f hf => ?_, fun f hf => h.proper f (List.mem_append_right _ hf), hconfig.2,
    fun name hname => h.named name (List.mem_append_right _ hname)⟩⟩
  rw [Bool.eq_false_iff, ne_eq, has_including_iff (h.proper f (List.mem_append_right _ hf))]
  rintro (hset | hmem)
  · rw [h.unset f (List.mem_append_right _ hf)] at hset
    cases hset
  · exact happart f hmem f hf rfl

end Options

namespace CommandLine

namespace Reading

/-- What was read so far can be taken in. -/
def Ready (r : Reading) : Prop :=
  match r.pending with
  | .nothing => True
  | .config _ => False
  | .files names => ∀ name ∈ names, name ≠ ""

/-- The options once the pending files are taken in. -/
def taken (r : Reading) : Options :=
  match r.pending with
  | .files names => r.options.including [] [] names
  | _ => r.options

variable {r : Reading} {flags : List Flag} {configs files : List String}

theorem settle_of_ready (h : r.Ready) : r.settle = .ok ⟨r.taken, .nothing⟩ := by
  obtain ⟨o, pending⟩ := r
  cases pending with
  | nothing => rfl
  | config path => exact h.elim
  | files names =>
    have hnames : names.any (·.isEmpty) = false := by
      rw [List.any_eq_false]
      intro name hname
      simpa using h name hname
    simp only [settle, taken, hnames]
    simp [Options.including]

/-- The result is a reading that has added this to what was read so far. -/
def Adds (r : Reading) (flags : List Flag) (configs files : List String) (result : Except Usage Reading) : Prop :=
  ∃ r', result = .ok r' ∧ r'.Ready ∧ r'.taken = r.taken.including flags configs files

theorem setFlag_adds (hready : r.Ready) {f : Flag} (htakes : r.taken.Takes [f] [] []) :
    r.Adds [f] [] [] (r.setFlag f) := by
  have hunset := htakes.unset f (List.mem_singleton_self f)
  obtain ⟨hhelp, hversion⟩ := htakes.proper f (List.mem_singleton_self f)
  refine ⟨⟨r.taken.including [f] [] [], .nothing⟩, ?_, trivial, rfl⟩
  rw [setFlag, settle_of_ready hready]
  cases f with
  | help => exact absurd rfl hhelp
  | version => exact absurd rfl hversion
  | _ =>
    simp only [Options.has] at hunset
    simp [bind, Except.bind, pure, Except.pure, setOnce, hunset, Options.including]

theorem short_adds (hready : r.Ready) {letters : List Char} (htakes : r.taken.Takes flags [] [])
    (hletters : flags.map Flag.letter? = letters.map some) : r.Adds flags [] [] (r.short letters) := by
  induction flags generalizing r letters with
  | nil =>
    obtain rfl : letters = [] := by simpa using hletters.symm
    exact ⟨r, rfl, hready, (Options.including_nothing _).symm⟩
  | cons f flags ih =>
    obtain ⟨c, letters, rfl⟩ : ∃ c rest, letters = c :: rest :=
      List.exists_cons_of_ne_nil (by rintro rfl; cases hletters)
    obtain ⟨hletter, hletters⟩ := List.cons.inj hletters
    have htakes : r.taken.Takes ([f] ++ flags) ([] ++ []) ([] ++ []) := htakes
    obtain ⟨hone, hmore⟩ := htakes.split
    obtain ⟨r₁, hset, hready₁, htaken₁⟩ := setFlag_adds hready hone
    obtain ⟨r₂, hrest, hready₂, htaken₂⟩ := ih hready₁ (htaken₁ ▸ hmore) hletters
    have hof : Flag.ofShort? c = some f := Flag.ofShort?_of_letter? hletter
    refine ⟨r₂, ?_, hready₂, ?_⟩
    · rw [short, List.foldlM_cons, hof]
      show (r.setFlag f >>= fun r => r.short letters) = _
      rw [hset]
      exact hrest
    · rw [htaken₂, htaken₁, Options.including_including]
      rfl

theorem long_flag (r : Reading) (f : Flag) : r.long f.long.toList = r.setFlag f := by
  cases f with
  | _ => rfl

theorem argument_long (r : Reading) (f : Flag) : r.argument ("--" ++ f.long) = r.setFlag f := by
  rw [← long_flag, argument, String.toList_append]
  rfl

theorem argument_letters (r : Reading) {letters : List Char} (hsome : letters ≠ []) (hhyphen : '-' ∉ letters) :
    r.argument (String.ofList ('-' :: letters)) = r.short letters := by
  obtain ⟨c, rest, rfl⟩ := List.exists_cons_of_ne_nil hsome
  have hc : c ≠ '-' := fun hc => hhyphen (hc ▸ List.mem_cons_self)
  rw [argument, String.toList_ofList]
  split
  · rename_i heq
    exact absurd (List.cons.inj (List.cons.inj heq).2).1 hc
  · rename_i heq
    cases heq
    rfl
  · rename_i hnone
    exact absurd rfl (hnone c rest)

theorem config_adds (hready : r.Ready) {path : String} (htakes : r.taken.Takes [] [path] []) :
    r.Adds [] [path] [] (r.argument ("--config=" ++ path)) := by
  obtain ⟨hunset, hpath⟩ : r.taken.config = none ∧ path ≠ "" := by
    rcases htakes.config with hnone | ⟨hunset, path', hone, hpath⟩
    · cases hnone
    · cases hone
      exact ⟨hunset, hpath⟩
  have hlong : r.argument ("--config=" ++ path) = r.long ("config=".toList ++ path.toList) := by
    rw [argument, String.toList_append]
    rfl
  have hname : ("config=".toList ++ path.toList).takeWhile (· != '=') = "config".toList := rfl
  have hvalue : ("config=".toList ++ path.toList).dropWhile (· != '=') = '=' :: path.toList := rfl
  refine ⟨⟨r.taken.including [] [path] [], .nothing⟩, ?_, trivial, rfl⟩
  rw [hlong, long, hname, hvalue]
  simp only [String.ofList_toList, beq_self_eq_true, if_true, settle_of_ready hready]
  show settle ⟨r.taken, .config (some path)⟩ = _
  simp [settle, hunset, hpath, Options.including]

/-- An argument that does not begin with a hyphen is a file. -/
theorem argument_file (hready : r.Ready) {name : String} (hname : name.toList.head? ≠ some '-') :
    r.argument name = r.file name := by
  obtain ⟨o, pending⟩ := r
  unfold argument
  split
  · rename_i heq
    exact absurd (congrArg List.head? heq) hname
  · rename_i heq
    exact absurd (congrArg List.head? heq) hname
  · cases pending with
    | config path => exact hready.elim
    | _ => rfl

theorem file_adds (hready : r.Ready) {name : String} (hname : name ≠ "") : r.Adds [] [] [name] (r.file name) := by
  have hsettle := settle_of_ready hready
  obtain ⟨o, pending⟩ := r
  cases pending with
  | config path => exact hready.elim
  | nothing =>
    refine ⟨⟨o, .files [name]⟩, ?_, List.forall_mem_singleton.mpr hname, rfl⟩
    rw [file, hsettle]
    rfl
  | files names =>
    refine ⟨⟨o, .files (names ++ [name])⟩, rfl, ?_, ?_⟩
    · intro name' hname'
      rcases List.mem_append.mp hname' with hname' | hname'
      · exact hready name' hname'
      · rwa [List.mem_singleton.mp hname']
    · show o.including [] [] (names ++ [name]) = (o.including [] [] names).including [] [] [name]
      rw [Options.including_including]
      rfl

/-- An argument adds what it says. -/
theorem argument_adds (hready : r.Ready) {a : String} (h : Says a flags configs files)
    (htakes : r.taken.Takes flags configs files) : r.Adds flags configs files (r.argument a) := by
  cases h with
  | long f =>
    rw [argument_long]
    exact setFlag_adds hready htakes
  | @short _ letters hsome hletters =>
    have hne : letters ≠ [] := by
      rintro rfl
      exact hsome (List.map_eq_nil_iff.mp hletters)
    rw [argument_letters r hne (hyphen_not_mem hletters)]
    exact short_adds hready htakes hletters
  | config path => exact config_adds hready htakes
  | file hname =>
    rw [argument_file hready hname]
    exact file_adds hready (htakes.named a (List.mem_singleton_self a))

/-- After two hyphens every argument adds a file. -/
theorem files_add (hready : r.Ready) (hnames : ∀ name ∈ files, name ≠ "") :
    r.Adds [] [] files (files.foldlM file r) := by
  induction files generalizing r with
  | nil => exact ⟨r, rfl, hready, (Options.including_nothing _).symm⟩
  | cons name files ih =>
    obtain ⟨r₁, hfile, hready₁, htaken₁⟩ := file_adds hready (hnames name List.mem_cons_self)
    have hothers : ∀ name ∈ files, name ≠ "" := fun name' hname' => hnames name' (List.mem_cons_of_mem _ hname')
    obtain ⟨r₂, hrest, hready₂, htaken₂⟩ := ih hready₁ hothers
    refine ⟨r₂, ?_, hready₂, ?_⟩
    · rw [List.foldlM_cons, hfile]
      exact hrest
    · rw [htaken₂, htaken₁, Options.including_including]
      rfl

/-- Arguments add what they spell. -/
theorem arguments_spells (hready : r.Ready) {args : List String} (h : Spells args flags configs files)
    (htakes : r.taken.Takes flags configs files) :
    r.arguments args = .ok ⟨r.taken.including flags configs files, .nothing⟩ := by
  induction h generalizing r with
  | done => rw [arguments, settle_of_ready hready, Options.including_nothing]
  | rest files =>
    obtain ⟨r', hfiles, hready', htaken'⟩ := files_add hready htakes.named
    rw [arguments, if_pos (beq_self_eq_true _), hfiles]
    show r'.settle = _
    rw [settle_of_ready hready', htaken']
  | next hsaid _ ih =>
    obtain ⟨hfirst, hrest⟩ := htakes.split
    obtain ⟨r', hargument, hready', htaken'⟩ := argument_adds hready hsaid hfirst
    rw [arguments, if_neg (by simpa using hsaid.ne_hyphens), hargument]
    show r'.arguments _ = _
    rw [ih hready' (htaken' ▸ hrest), htaken', Options.including_including]

end Reading

end CommandLine

/-! ## All spellings -/

namespace Options

/-- One way to spell the options: the flags by their names, and all files after two hyphens. -/
def spelling (o : Options) : List String :=
  (Flag.all.filter o.has).map (fun f => "--" ++ f.long) ++ (o.config.toList.map ("--config=" ++ ·) ++ "--" :: o.files)

theorem spells_spelling (o : Options) : Spells o.spelling (Flag.all.filter o.has) o.config.toList o.files := by
  have hconfigs : Spells (o.config.toList.map ("--config=" ++ ·) ++ "--" :: o.files) [] o.config.toList o.files := by
    cases o.config with
    | none => exact .rest o.files
    | some path => exact .next (.config path) (.rest o.files)
  have hflags : ∀ flags : List Flag, Spells (flags.map (fun f => "--" ++ f.long) ++
      (o.config.toList.map ("--config=" ++ ·) ++ "--" :: o.files)) flags o.config.toList o.files := by
    intro flags
    induction flags with
    | nil => exact hconfigs
    | cons f flags ih => exact .next (.long f) ih
  exact hflags _

/-- All options can be spelled. -/
theorem spelledBy_spelling (o : Options) : o.SpelledBy o.spelling :=
  ⟨Flag.all.filter o.has, o.spells_spelling, Flag.nodup_all.filter _, fun f => by simp [Flag.mem_all]⟩

variable {o : Options} {flags : List Flag}

/-- What options spell makes them. -/
theorem including_spelled (hflags : ∀ f, f ∈ flags ↔ o.has f = true) :
    ({} : Options).including flags o.config.toList o.files = o := by
  have hcontains : ∀ f, flags.contains f = o.has f := fun f => by
    rw [Bool.eq_iff_iff, List.contains_iff_mem, hflags]
  have hconfig : o.config.toList.getLast? = o.config := by
    cases o.config with
    | _ => rfl
  simp only [including, hcontains, hconfig, has, List.nil_append, Bool.false_or, Option.or_none]

/-- What options spell can be taken in by a reading that has nothing yet. -/
theorem takes_spelled (hflags : ∀ f, f ∈ flags ↔ o.has f = true) (honce : flags.Nodup) (hconfig : o.config ≠ some "")
    (hfiles : "" ∉ o.files) : ({} : Options).Takes flags o.config.toList o.files where
  once := honce
  unset f _ := by
    cases f with
    | _ => rfl
  proper f hf := by
    have hhas := (hflags f).mp hf
    constructor
    all_goals
      rintro rfl
      cases hhas
  config := by
    cases hpath : o.config with
    | none => exact Or.inl rfl
    | some path => exact Or.inr ⟨rfl, path, rfl, fun hempty => hconfig (hempty ▸ hpath)⟩
  named name hname := fun hempty => hfiles (hempty ▸ hname)

end Options

namespace CommandLine

variable {o : Options} {args : List String}

/-- What the arguments spell is read, before the environment is asked. -/
theorem Reading.arguments_spelled (h : o.SpelledBy args) (hconfig : o.config ≠ some "") (hfiles : "" ∉ o.files) :
    (⟨{}, .nothing⟩ : Reading).arguments args = .ok ⟨o, .nothing⟩ := by
  obtain ⟨flags, hspells, honce, hflags⟩ := h
  have hread := Reading.arguments_spells (r := ⟨{}, .nothing⟩) trivial hspells
    (Options.takes_spelled hflags honce hconfig hfiles)
  rw [hread]
  show Except.ok (⟨({} : Options).including flags o.config.toList o.files, .nothing⟩ : Reading) = _
  rw [Options.including_spelled hflags]

/-- What was read and the environment make the options, where those that are pretty are as JSON. -/
theorem parse_of_read {o' : Options} {environment : Option String}
    (hread : (⟨{}, .nothing⟩ : Reading).arguments args = .ok ⟨o, .nothing⟩)
    (henvironment : Reading.environment o environment = .ok o') (hpretty : o'.pretty = true → o'.json = true) :
    parse args environment = .ok o' := by
  have hneeds : (o'.pretty && !o'.json) = false := by
    cases hjson : o'.json with
    | true => simp
    | false => simp [Bool.eq_false_iff.mpr fun hset => Bool.noConfusion (hjson.symm.trans (hpretty hset))]
  simp [parse, hread, henvironment, hneeds, bind, Except.bind, pure, Except.pure]

/-- Options are read from each of their spellings, whatever the order and the letters and wherever the files are that do
not begin with a hyphen. A configuration that is spelled is taken whatever the environment names, and else the one that
the environment names, if it names one. -/
theorem parse_spelled (hspelled : o.SpelledBy args) (hpretty : o.pretty = true → o.json = true)
    (hconfig : o.config ≠ some "") (hfiles : "" ∉ o.files) :
    (o.config ≠ none → ∀ environment, parse args environment = .ok o) ∧
    (o.config = none → parse args none = .ok o ∧
      ∀ path, path ≠ "" → parse args (some path) = .ok { o with config := some path }) := by
  have hread := Reading.arguments_spelled hspelled hconfig hfiles
  refine ⟨fun hgiven environment => ?_, fun hnone => ⟨?_, fun path hpath => ?_⟩⟩
  · obtain ⟨path, hpath⟩ := Option.ne_none_iff_exists'.mp hgiven
    exact parse_of_read hread (by simp [Reading.environment, hpath]) hpretty
  · exact parse_of_read hread (by simp [Reading.environment, hnone]) hpretty
  · have henvironment : Reading.environment o (some path) = .ok { o with config := some path } := by
      simp [Reading.environment, hnone, hpath]
    exact parse_of_read hread henvironment hpretty

/-- Letters together, files between the options, a path with an equals sign, and files that are called like options. -/
def mixedArguments : List String :=
  ["-vf", "a=b", "--config=x=y", "--json", "json", "--pretty", "--", "--force", "--"]

def mixedOptions : Options :=
  { files := ["a=b", "json", "--force", "--"], force := true, json := true, pretty := true, verbose := true,
    config := some "x=y" }

theorem mixedOptions_spelled : mixedOptions.SpelledBy mixedArguments := by
  refine ⟨[.verbose, .force, .json, .pretty], ?_, by decide, fun f => ?_⟩
  · have hletters : [Flag.verbose, .force].map Flag.letter? = ['v', 'f'].map some := rfl
    exact .next (.short (List.cons_ne_nil _ _) hletters) <| .next (.file (by decide)) <| .next (.config "x=y") <|
      .next (.long .json) <| .next (.file (by decide)) <| .next (.long .pretty) <| .rest ["--force", "--"]
  · cases f with
    | _ => decide

theorem parse_spelled_mixed : mixedOptions.SpelledBy mixedArguments ∧
    ∀ environment, parse mixedArguments environment = .ok mixedOptions :=
  ⟨mixedOptions_spelled,
    (parse_spelled mixedOptions_spelled (fun _ => rfl) (by decide) (by decide)).1 (Option.some_ne_none _)⟩

/-! ## Without colours -/

theorem Flag.ofLong?_eq_noColour {name : String} (h : ofLong? name = some noColour) : name = "no-color" := by
  unfold ofLong? at h
  split at h
  case h_6 => rfl
  all_goals cases h

theorem Flag.ofShort?_ne_noColour (c : Char) : ofShort? c ≠ some noColour := by
  unfold ofShort?
  split
  all_goals simp

namespace Reading

/-- The reading where the colours were switched off before. -/
def uncoloured (r : Reading) : Reading := { r with options := { r.options with noColour := true } }

/-- Reading goes on alike where the colours were switched off before. -/
def Indifferent (step : Reading → Except Usage Reading) : Prop := ∀ r, step r.uncoloured = (step r).map uncoloured

theorem indifferent_ok {next : Reading → Reading} (h : ∀ r, next r.uncoloured = (next r).uncoloured) :
    Indifferent fun r => .ok (next r) := fun r => congrArg _ (h r)

theorem indifferent_error (u : Usage) : Indifferent fun _ => .error u := fun _ => rfl

theorem Indifferent.bind {step next : Reading → Except Usage Reading} (h : Indifferent step) (hn : Indifferent next) :
    Indifferent fun r => step r >>= next := by
  intro r
  show step r.uncoloured >>= next = (step r >>= next).map uncoloured
  rw [h]
  cases step r with
  | error u => rfl
  | ok r₁ => exact hn r₁

theorem indifferent_foldlM {α : Type} {step : Reading → α → Except Usage Reading} {as : List α}
    (h : ∀ a ∈ as, Indifferent (step · a)) : Indifferent fun r => as.foldlM step r := by
  induction as with
  | nil => exact indifferent_ok fun _ => rfl
  | cons a as ih =>
    simp only [List.foldlM_cons]
    exact (h a List.mem_cons_self).bind (ih fun b hb => h b (List.mem_cons_of_mem a hb))

theorem indifferent_settle : Indifferent settle := by
  intro r
  obtain ⟨o, pending⟩ := r
  cases pending with
  | nothing => rfl
  | config value =>
    cases value with
    | none => rfl
    | some path =>
      simp only [settle, uncoloured, apply_ite (Except.map _)]
      rfl
  | files names =>
    simp only [settle, uncoloured, apply_ite (Except.map _)]
    rfl

theorem indifferent_setFlag {f : Flag} (hf : f ≠ .noColour) : Indifferent (·.setFlag f) := by
  refine indifferent_settle.bind ?_
  have honce : ∀ (given : Bool) (o o' : Options) (pending : Pending), o' = { o with noColour := true } →
      (setOnce given o' >>= fun o => pure ⟨o, pending⟩ : Except Usage Reading) =
        (setOnce given o >>= fun o => pure ⟨o, pending⟩ : Except Usage Reading).map uncoloured := by
    rintro given o _ pending rfl
    cases given with
    | _ => rfl
  cases f with
  | noColour => exact absurd rfl hf
  | help | version => exact indifferent_error _
  | _ => exact fun r => honce _ _ _ r.pending rfl

theorem indifferent_long {text : List Char} (h : text ≠ "no-color".toList) : Indifferent (·.long text) := by
  unfold long
  dsimp only
  split
  · refine indifferent_settle.bind ?_
    split
    · exact fun r => indifferent_settle { r with pending := .config _ }
    · exact indifferent_ok fun _ => rfl
  · split
    · exact indifferent_error _
    · rename_i f hf
      split
      · exact indifferent_error _
      · rename_i hvalue
        refine indifferent_setFlag fun hcolour => h ?_
        have hname : text.takeWhile (· != '=') = "no-color".toList := by
          rw [← Flag.ofLong?_eq_noColour (hcolour ▸ hf), String.toList_ofList]
        have hrest : text.dropWhile (· != '=') = [] := by
          cases hdrop : text.dropWhile (· != '=') with
          | nil => rfl
          | cons c value => simp [hdrop] at hvalue
        rw [← List.takeWhile_append_dropWhile (p := (· != '=')) (l := text), hname, hrest, List.append_nil]

theorem indifferent_short (letters : List Char) : Indifferent (·.short letters) := by
  refine indifferent_foldlM fun c _ => ?_
  split
  · rename_i f hf
    refine indifferent_setFlag fun hcolour => Flag.ofShort?_ne_noColour c (hcolour ▸ hf)
  · exact indifferent_error _

theorem indifferent_file (name : String) : Indifferent (·.file name) := by
  have hsettled : Indifferent fun r => r.settle >>= fun r => pure { r with pending := .files [name] } :=
    indifferent_settle.bind (indifferent_ok fun _ => rfl)
  intro r
  obtain ⟨o, pending⟩ := r
  cases pending with
  | files names => rfl
  | nothing => exact hsettled _
  | config value => exact hsettled _

theorem indifferent_argument {text : String} (h : text ≠ "--no-color") : Indifferent (·.argument text) := by
  unfold argument
  split
  · rename_i rest heq
    refine indifferent_long ?_
    rintro rfl
    exact h (String.toList_inj.mp heq)
  · exact indifferent_short _
  · intro r
    obtain ⟨o, pending⟩ := r
    cases pending with
    | nothing => exact indifferent_file text _
    | files names => exact indifferent_file text _
    | config value =>
      cases value with
      | some path => exact indifferent_file text _
      | none => rfl

theorem indifferent_arguments {args : List String} (h : "--no-color" ∉ args.takeWhile (· != "--")) :
    Indifferent (·.arguments args) := by
  induction args with
  | nil => exact indifferent_settle
  | cons a args ih =>
    unfold arguments
    split
    · exact (indifferent_foldlM fun name _ => indifferent_file name).bind indifferent_settle
    · rename_i hoption
      rw [List.takeWhile_cons_of_pos (by simpa using hoption), List.mem_cons, not_or] at h
      exact (indifferent_argument (Ne.symm h.1)).bind (ih h.2)

theorem environment_uncoloured (o : Options) (config : Option String) :
    environment { o with noColour := true } config = (environment o config).map fun o => { o with noColour := true } := by
  unfold environment
  dsimp only
  split
  · split
    · rfl
    · rfl
  · rfl

end Reading

/-- Where the arguments do not switch the colours off, `--no-color` before them does, and nothing else. -/
theorem parse_noColour (h : "--no-color" ∉ args.takeWhile (· != "--")) (environment : Option String) :
    parse ("--no-color" :: args) environment = (parse args environment).map fun o => { o with noColour := true } := by
  have hfirst : (⟨{}, .nothing⟩ : Reading).arguments ("--no-color" :: args) =
      ((⟨{}, .nothing⟩ : Reading).arguments args).map Reading.uncoloured := Reading.indifferent_arguments h ⟨{}, .nothing⟩
  unfold parse
  rw [hfirst]
  cases (⟨{}, .nothing⟩ : Reading).arguments args with
  | error u => rfl
  | ok r =>
    simp only [Except.map, bind, Except.bind, Reading.uncoloured, Reading.environment_uncoloured]
    cases Reading.environment r.options environment with
    | error u => rfl
    | ok o =>
      dsimp only
      split
      · rfl
      · rfl

end CommandLine

end DeltaLint
