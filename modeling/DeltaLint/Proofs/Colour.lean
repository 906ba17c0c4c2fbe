import DeltaLint.Proofs.Alike
import DeltaLint.Proofs.CommandLine
import DeltaLint.Proofs.Report.Style

/-
  DeltaLint.Proofs.Colour — runs with colours and without.

  Colours are decided before the run and only play a part in what is said of a file. So runs with and
  without them take the same steps, and the sessions they leave are equal once all that was printed is rid of
  its escape sequences (`Session.unstyled`). Each line that is printed ends with a newline, which goes on with
  no sequence: to rid the whole output of sequences is to rid each line of them (`unstyled_stdout`).

  Proved:
  - `actsAlike_unstyled` / `saysAlike_unstyled`: each step leaves sessions equal but for styles.
  - `run_unstyled`: so do runs with and without colours.
  - `run_same`: as JSON, or where colours are on in both or in none, they do the same.
  - `colour_is_presentation`: how such runs end, what they call and what they print.
-/

namespace DeltaLint

open Job

variable {σ : Type} {host : Host σ} {options : Options} {noColour colour colour' : Bool} {s t : Session σ}

/-! ## What is seen of a session -/

/-- All that was printed, a newline after each line. -/
def Session.stdout (s : Session σ) : List Char := s.printedLines.flatMap (·.toList ++ ['\n'])

def Event.isCall : Event → Bool
  | .printed _ => false
  | _ => true

/-- The calls of git and the starts of linters, in order. -/
def Session.calls (s : Session σ) : List Event := s.events.reverse.filter Event.isCall

/-! ## Without styles -/

/-- What is printed is rid of its escape sequences. -/
def Event.unstyled : Event → Event
  | .printed text => .printed (String.ofList (Report.unstyled text.toList))
  | e => e

def Session.unstyled (s : Session σ) : Session σ := ⟨s.world, s.events.map Event.unstyled⟩

theorem calls_unstyled (s : Session σ) : s.unstyled.calls = s.calls := by
  have hcalls : ∀ es : List Event, (es.map Event.unstyled).filter Event.isCall = es.filter Event.isCall := by
    intro es
    induction es with
    | nil => rfl
    | cons e es ih =>
      rw [List.map_cons, List.filter_cons, List.filter_cons, ih]
      cases e with
      | _ => rfl
  simp only [Session.calls, Session.unstyled, ← List.map_reverse, hcalls]

theorem printedLines_unstyled (s : Session σ) :
    s.unstyled.printedLines = s.printedLines.map fun text => String.ofList (Report.unstyled text.toList) := by
  simp only [Session.printedLines, Session.unstyled, ← List.map_reverse, List.filterMap_map, List.map_filterMap]
  congr 1
  funext e
  cases e with
  | _ => rfl

/-- The output of a session without styles is the output of the session, rid of its escape sequences as a whole. -/
theorem unstyled_stdout (s : Session σ) : Report.unstyled s.stdout = s.unstyled.stdout := by
  have hlines := Report.unstyled_lines (s.printedLines.map String.toList)
  rw [List.flatMap_map, List.flatMap_map] at hlines
  rw [Session.stdout, hlines, Session.stdout, printedLines_unstyled, List.flatMap_map]
  simp only [String.toList_ofList]

/-- But for styles, the same happened and the same came of it. -/
def SameButStyles (s t : Session σ) : Prop := s.unstyled = t.unstyled

theorem SameButStyles.world_eq (h : SameButStyles s t) : s.world = t.world := (Session.mk.inj h).1

theorem SameButStyles.cons (h : SameButStyles s t) {e e' : Event} (he : e.unstyled = e'.unstyled) (w : σ) :
    SameButStyles ⟨w, e :: s.events⟩ ⟨w, e' :: t.events⟩ := by
  have hevents : s.events.map Event.unstyled = t.events.map Event.unstyled := (Session.mk.inj h).2
  simp only [SameButStyles, Session.unstyled, List.map_cons, he, hevents]

theorem SameButStyles.calls_eq (h : SameButStyles s t) : s.calls = t.calls := by
  rw [← calls_unstyled, ← calls_unstyled t]
  exact congrArg Session.calls h

theorem SameButStyles.unstyled_stdout_eq (h : SameButStyles s t) : Report.unstyled s.stdout = Report.unstyled t.stdout := by
  rw [unstyled_stdout, unstyled_stdout]
  exact congrArg Session.stdout h

/-! ## Steps -/

/-- After a call sessions that are the same but for styles are so again. -/
theorem actsAlike_unstyled (host : Host σ) : host.ActsAlike host SameButStyles where
  git directory arguments s t h := by
    rw [h.world_eq]
    exact ⟨rfl, h.cons rfl _⟩
  launch program arguments s t h := by
    rw [h.world_eq]
    exact ⟨rfl, h.cons rfl _⟩

theorem SameButStyles.say (h : SameButStyles s t) (p : Plan) {text text' : String}
    (htext : Report.unstyled text.toList = Report.unstyled text'.toList) :
    SameButStyles (p.say text s) ((p.restyled noColour colour).say text' t) := by
  have hprinted : (Event.printed text).unstyled = (Event.printed text').unstyled := by
    simp only [Event.unstyled, htext]
  show SameButStyles (p.say text s) (p.say text' t)
  unfold Plan.say
  split
  · exact h
  · rw [h.world_eq]
    exact h.cons hprinted _

/-- So they are after what is said of a file. -/
theorem saysAlike_unstyled (p : Plan) (noColour colour : Bool) :
    p.SaysAlike noColour colour (SameButStyles : Session σ → Session σ → Prop) where
  header path s t h := by
    refine h.say p ?_
    rw [Report.unstyled_header, Report.unstyled_header colour]
  status outcome s t h := by
    refine h.say p ?_
    rw [Report.unstyled_status, Report.unstyled_status colour]

/-! ## Runs -/

theorem run_unstyled (host : Host σ) (options : Options) (noColour colour colour' : Bool) (w : σ) :
    ∃ r s t, (run host options colour).runOn w = (r, s) ∧
      (run host { options with noColour := noColour } colour').runOn w = (r, t) ∧ SameButStyles s t := by
  have hrefl : ∀ s : Session σ, SameButStyles s s := fun _ => rfl
  refine run_restyled hrefl (actsAlike_unstyled host) (fun p _ _ => saysAlike_unstyled p _ _) ?_ w
  intro _ text s t h
  rw [h.world_eq]
  exact h.cons rfl _

/-- As JSON, or where colours are on in both or in none, runs do the same. -/
theorem run_same (host : Host σ) (h : options.json = true ∨ (colour && !options.noColour) = (colour' && !noColour)) (w : σ) :
    (run host options colour).runOn w = (run host { options with noColour := noColour } colour').runOn w := by
  have hacts : host.ActsAlike host Eq := by
    constructor
    all_goals
      rintro _ _ s _ rfl
      exact ⟨rfl, rfl⟩
  have hsaid : ∀ p : Plan, p.options = options → p.colour = (colour && !options.noColour) →
      p.SaysAlike noColour (colour' && !noColour) (Eq : Session σ → Session σ → Prop) := by
    rintro p rfl hcolour
    rcases h with hjson | hsame
    · have hsilent : ∀ text text' (s : Session σ), p.say text s = (p.restyled noColour (colour' && !noColour)).say text' s := by
        intro text text' s
        show p.say text s = p.say text' s
        rw [Plan.say, Plan.say, if_pos hjson, if_pos hjson]
      exact ⟨fun path s _ hst => hst ▸ hsilent _ _ s, fun outcome s _ hst => hst ▸ hsilent _ _ s⟩
    · rw [hsame] at hcolour
      rw [← hcolour]
      exact ⟨fun path s _ hst => hst ▸ rfl, fun outcome s _ hst => hst ▸ rfl⟩
  obtain ⟨r, s, t, hrun, hrun', rfl⟩ :=
    run_restyled (fun _ => rfl) hacts hsaid (fun _ text s t hst => hst ▸ rfl) w
  exact hrun.trans hrun'.symm

/-- How runs end and what they do to the system is the same, and so are their calls. Their outputs differ in escape
sequences alone, and as JSON not at all. -/
structure AlikeButColour (options : Options) (a b : Except Abort Nat × Session σ) : Prop where
  result : a.1 = b.1
  world : a.2.world = b.2.world
  calls : a.2.calls = b.2.calls
  json : options.json = true → a.2.stdout = b.2.stdout
  text : Report.unstyled a.2.stdout = Report.unstyled b.2.stdout

/-- Colour is presentation. Whatever the options, the paths, the linters and what these write, the run with colours is
alike but for colours to the run without, be they off because of the terminal or because the options say so. The option
for this is `--no-color`: before arguments that do not have it, it switches the colours off and does nothing else. -/
theorem colour_is_presentation (host : Host σ) (w : σ) :
    (∀ options noColour colour colour', AlikeButColour options ((run host options colour).runOn w)
      ((run host { options with noColour := noColour } colour').runOn w)) ∧
    ∀ args environment, "--no-color" ∉ args.takeWhile (· != "--") →
      CommandLine.parse ("--no-color" :: args) environment =
        (CommandLine.parse args environment).map fun options => { options with noColour := true } := by
  refine ⟨fun options noColour colour colour' => ?_, fun args environment h => CommandLine.parse_noColour h environment⟩
  obtain ⟨r, s, t, hrun, hrun', hst⟩ := run_unstyled host options noColour colour colour' w
  have hjson : options.json = true → s = t := by
    intro hjson
    have hsame : (r, s) = (r, t) := hrun ▸ hrun' ▸ run_same host (Or.inl hjson) w
    exact congrArg Prod.snd hsame
  rw [hrun, hrun']
  constructor
  case result => rfl
  case world => exact hst.world_eq
  case calls => exact hst.calls_eq
  case json => exact fun h => congrArg Session.stdout (hjson h)
  case text => exact hst.unstyled_stdout_eq

/-- The system with all files there, and linters that write a sequence that is cut off. -/
def styledHost : Host Unit :=
  { tinyHost with
    isFile := fun _ path => path != Path.join "/r" configFileName
    launch := fun _ _ w => (.ok ⟨"bad\x1b[", some 1⟩, w) }

/-- A file whose name switches all styles off, and one whose extension is a sequence that is cut off. -/
def styledFiles : List String := ["\x1b[0m.py", "b.\x1b[1"]

theorem colour_is_presentation_cut_off :
    ((run styledHost { files := styledFiles } true).runOn ()).2.printedLines =
      ["Linting file: \x1b[1m\x1b[0m\x1b[1m.py\x1b[0m", "\x1b[31mERROR\x1b[0m\nbad\x1b[\nbad\x1b[",
        "Linting file: \x1b[1mb.\x1b[1\x1b[0m",
        "\x1b[33mSKIPPED: no linters configured for extension '.\x1b[1'\x1b[0m"] ∧
    ((run styledHost { files := styledFiles, noColour := true } true).runOn ()).2.printedLines =
      ["Linting file: \x1b[0m.py", "ERROR\nbad\x1b[\nbad\x1b[", "Linting file: b.\x1b[1",
        "SKIPPED: no linters configured for extension '.\x1b[1'"] ∧
    AlikeButColour { files := styledFiles } ((run styledHost { files := styledFiles } true).runOn ())
      ((run styledHost { files := styledFiles, noColour := true } true).runOn ()) ∧
    CommandLine.parse ("--no-color" :: styledFiles) none =
      (CommandLine.parse styledFiles none).map fun options => { options with noColour := true } := by
  obtain ⟨hruns, hparse⟩ := colour_is_presentation styledHost ()
  exact ⟨by decide +kernel, by decide +kernel, hruns { files := styledFiles } true true true, hparse _ none (by decide)⟩

end DeltaLint
