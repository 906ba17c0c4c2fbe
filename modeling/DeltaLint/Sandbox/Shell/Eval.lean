import DeltaLint.Sandbox.Shell.Utility

/-
  DeltaLint.Sandbox.Shell.Eval — running scripts.

  A command ends with a status, or jumps out of what is around it. A pipe, a subshell, a substitution and
  a program each run as a child. A child in the background runs when it is waited for, at the latest when
  its parent ends. `fuel` bounds how deep a run goes and how long it takes; a run that uses it up is
  killed.
-/

namespace DeltaLint.Sandbox.Shell

open Run
open Text (ofBytes)

/-! ## Names of files -/

/-- Cuts a word at its slashes. -/
def glyphPieces : List Glyph → List (List Glyph)
  | [] => [[]]
  | g :: rest =>
    if g.char = '/' then [] :: glyphPieces rest
    else match glyphPieces rest with
      | piece :: pieces => (g :: piece) :: pieces
      | [] => [[g]]

/-- The paths that go on from one of the given beginnings as the pieces say. A name that begins with a dot is only
meant by a piece that begins with one. -/
def pathsFrom (t : Tree) (directory : String) : List (List Char) → List (List Glyph) → List (List Char)
  | starts, [] => starts
  | starts, piece :: pieces =>
    let glob := Glob.ofGlyphs piece
    let named (start : List Char) : List (List Char) :=
      if !glob.isProper then [piece.map Glyph.char]
      else match t.resolve directory (if start.isEmpty then "." else decoded start) with
        | .ok place =>
          (("." :: ".." :: t.children place).map encoded).filter fun name =>
            glob.accepts name && (name.head? != some '.' || piece.head?.any (·.char = '.'))
        | .error _ => []
    let ending : List Char := if pieces.isEmpty then [] else ['/']
    pathsFrom t directory (starts.flatMap fun start => (named start).map fun name => start ++ name ++ ending) pieces

/-- The paths that a word with wildcards stands for, or its text where there are none. -/
def pathsOf (t : Tree) (directory : String) (gs : List Glyph) : List (List Char) :=
  let text := gs.map Glyph.char
  if !(Glob.ofGlyphs gs).isProper then [text]
  else
    let found := (pathsFrom t directory [[]] (glyphPieces gs)).filter fun path => (t.find directory (decoded path)).toOption.isSome
    if found.isEmpty then [text] else found.mergeSort Utility.bytesBefore

/-- The path and argument on the first line of a script, after its mark. Without a path the line says nothing. -/
def interpreter? (bytes : List UInt8) : Option (String × Option String) :=
  match ofBytes bytes with
  | '#' :: '!' :: rest =>
    let line := (rest.takeWhile (· != '\n')).dropWhile isBlank
    let path := line.takeWhile (!isBlank ·)
    let argument := ((line.drop path.length).dropWhile isBlank).reverse.dropWhile isBlank |>.reverse
    if path.isEmpty then none else some (decoded path, if argument.isEmpty then none else some (decoded argument))
  | _ => none

/-! ## Homes -/

/-- The directory that belongs to a user, or with no name to the one whose shell it is. -/
def homeOf? (s : State) (name : List Char) : Option (List Char) :=
  if name.isEmpty then s.process.lookup? "HOME".toList
  else match s.machine.tree.read "/" "/etc/passwd" with
    | .ok bytes =>
      let entry? := (Text.pieces '\n' (ofBytes bytes)).find? fun line => line.takeWhile (· != ':') == name
      entry?.bind fun line => (Text.pieces ':' line)[5]?
    | .error _ => none

/-- The text with a home in the place of a tilde at its start and the name after it. `ends` says that nothing follows
the text. -/
def homed (home? : List Char → Option (List Char)) (ends : Bool) (text : List Char) : Word :=
  match text with
  | '~' :: rest =>
    let name := rest.takeWhile (· != '/')
    let after := rest.drop name.length
    match if after.isEmpty && !ends then none else home? name with
    | some home => [.literal home true, .literal after false]
    | none => [.literal text false]
  | _ => [.literal text false]

/-- The word with homes in the place of tildes: of one at its start, or in what a variable is set to after each colon. -/
def withHomes (home? : List Char → Option (List Char)) (inValue : Bool) : Word → Word
  | .literal text false :: parts =>
    if !inValue then homed home? parts.isEmpty text ++ parts
    else
      let pieces := Text.pieces ':' text
      let last := pieces.length - 1
      let first : List Word := (pieces.zipIdx).map fun (piece, i) => homed home? (i < last || parts.isEmpty) piece
      (first.intersperse [.literal [':'] false]).flatten ++ parts
  | parts => parts

/-! ## Parts of a run -/

/-- Ends a run that has used up its fuel. -/
def exhausted {α : Type} : Run α := do throw (.killed (← process).number 9)

/-- Runs a round of a loop, and says whether there may be another one. -/
def round (job : Run Unit) : Run Bool :=
  try
    job
    return true
  catch
    | .leave (n + 2) => throw (.leave (n + 1))
    | .leave _ => return false
    | .again (n + 2) => throw (.again (n + 1))
    | .again _ => return true
    | jump => throw jump

/-- Runs a job to its end, whatever it ends by short of a signal. -/
def uptoSignal (job : Run Unit) : Run Unit :=
  try job
  catch
    | .killed number signal => throw (.killed number signal)
    | _ => pure ()

/-- Runs a job, after which the descriptors lead where they led before. -/
def keepingDescriptors {α : Type} (job : Run α) : Run α :=
  within id (fun before after => { after with descriptors := before.descriptors }) job

/-- Runs a job within one more loop. -/
def inLoop (job : Run Unit) : Run Unit :=
  within (fun p => { p with loops := p.loops + 1 }) (fun before after => { after with loops := before.loops }) job

/-- Writes the words of a command before it is run, where the shell was told to. -/
def trace (c : Option Channel) (words : List (List Char)) : Run Unit := do
  let p ← process
  if p.hasOption 'x' then
    let text := (p.lookup? "PS4".toList).getD "+ ".toList ++ List.intercalate [' '] words ++ ['\n']
    c.forM fun c => modifyMachine (·.write c text)

/-- The variables that every shell begins with. -/
def startingVariables : List (String × String) :=
  [("IFS", " \t\n"), ("OPTIND", "1"), ("PS1", "# "), ("PS2", "> "), ("PS4", "+ ")]

def Script.isBlank (s : Script) : Bool := s.fault.isNone && s.lines.all fun | .nothing => true | _ => false

/-! ## Running -/

mutual

/-- The segments that a word comes to. -/
def expand : Nat → Word → Run (List Segment)
  | 0, _ => exhausted
  | n + 1, w => do return (← w.mapM (expandPart n)).flatten

/-- The segments that a word of a command comes to. -/
def expandWord : Nat → Word → Run (List Segment)
  | 0, _ => exhausted
  | n + 1, w => do expand n (withHomes (homeOf? (← get)) false w)

def expandPart : Nat → Part → Run (List Segment)
  | 0, _ => exhausted
  | n + 1, p =>
    let segment (text : List Char) (quoted : Bool) : List Segment := [if quoted then .fixed text true else .open text]
    match p with
    | .literal text quoted => return [.fixed text quoted]
    | .parameter name use quoted => expandParameter n name use quoted
    | .length name => do
      let p ← process
      match p.parameter? name with
      | some value => return [.fixed (Text.decimal value.length) false]
      | none =>
        if p.hasOption 'u' && name != ['@'] && name != ['*'] then fail (name ++ ": parameter not set".toList) 2
        else return [.fixed ['0'] false]
    | .arithmetic expression quoted => do
      let text := Segment.join (← expand n expression)
      let p ← process
      match Arith.ofText text >>= fun a => a.eval p.value [] with
      | .ok (k, assigned) =>
        assigned.reverse.forM fun (x, v) => assign x (Arith.text v)
        return segment (Arith.text k) quoted
      | .error fault => fail (fault.message text) 2
    | .output script line quoted => do return segment (← capture n script line) quoted

def expandParameter : Nat → List Char → Use → Bool → Run (List Segment)
  | 0, _, _, _ => exhausted
  | n + 1, name, use, quoted => do
    let p ← process
    let value? := p.parameter? name
    let isList := name = ['@'] || name = ['*']
    let isThere (orEmpty : Bool) : Bool := value?.any fun v => !(orEmpty && v.isEmpty)
    let own : List Segment :=
      if name = ['@'] && quoted then (p.arguments.map (Segment.fixed · true)).intersperse .cut
      else if isList && !quoted then (p.arguments.map Segment.open).intersperse .cut
      else [if quoted then .fixed (value?.getD []) true else .open (value?.getD [])]
    let instead (w : Word) : Run (List Segment) := do
      let ss ← expand n w
      if quoted then return [.fixed (Segment.join ss) true]
      else return ss.map fun | .fixed text false => .open text | s => s
    match use with
    | .value =>
      if value?.isNone && !isList && p.hasOption 'u' then fail (name ++ ": parameter not set".toList) 2
      else return own
    | .fallback orEmpty w => if isThere orEmpty then return own else instead w
    | .assigned orEmpty w =>
      if isThere orEmpty then return own
      else
        let ss ← instead w
        assign name (Segment.join ss)
        return ss
    | .required orEmpty w =>
      if isThere orEmpty then return own
      else
        let text := Segment.join (← expand n w)
        let general := "parameter not set".toList ++ (if orEmpty then " or null".toList else [])
        fail (name ++ ": ".toList ++ if w.isEmpty then general else text) 2
    | .alternative orEmpty w =>
      if isThere orEmpty then instead w else return if quoted then [.fixed [] true] else []
    | .without atEnd longest w =>
      let glob := Glob.ofGlyphs ((← expand n w).flatMap Segment.glyphs)
      let text := glob.without atEnd longest (value?.getD [])
      return [if quoted then .fixed text true else .open text]
    | .bad => fail "Bad substitution".toList 2

/-- The text that a word comes to where it is not cut. -/
def expandText : Nat → Word → Run (List Char)
  | 0, _ => exhausted
  | n + 1, w => do return Segment.join (← expandWord n w)

/-- The text that a variable is set to. -/
def expandValue : Nat → Word → Run (List Char)
  | 0, _ => exhausted
  | n + 1, w => do expandText n (withHomes (homeOf? (← get)) true w)

/-- The fields that words come to. -/
def expandFields : Nat → List Word → Run (List (List Char))
  | 0, _ => exhausted
  | n + 1, ws => do
    let fields ← ws.mapM fun w => do
      let ss ← expandWord n w
      let s ← get
      let fields := Fields.ofSegments s.process.ifs ss
      if s.process.hasOption 'f' then return fields.map (·.map Glyph.char)
      else return fields.flatMap (pathsOf s.machine.tree s.process.directory)
    return fields.flatten

/-- What a script writes, without the line feeds at its end. -/
def capture : Nat → List Char → Nat → Run (List Char)
  | 0, _, _ => exhausted
  | n + 1, script, line => do
    let s ← get
    let (sink, m) := s.machine.newSink
    set { s with machine := m }
    let child ← fork
    let ending ← runAs (child.connect 1 sink) (toEnd n (runText n line script))
    settle ending
    let t ← get
    let (text, m) := t.machine.takeSink sink
    set { t with machine := m, process := { t.process with captured := t.process.status, status := s.process.status } }
    return ((text.filter (· != '\x00')).reverse.dropWhile (· == '\n')).reverse

/-- Connects descriptors as the redirections say, up to one that cannot be. -/
def redirect : Nat → List Redirection → Run Bool
  | 0, _ => exhausted
  | n + 1, rs => rs.allM fun r => do
    let refused (what : String) (file : List Char) (cause : Option String) : Run Bool := do
      match cause with
      | none => return true
      | some text =>
        complain (s!"cannot {what} ".toList ++ file ++ ": ".toList ++ text.toList)
        setStatus 2
        return false
    match r with
    | .input d w => do
      let file ← expandText n w
      refused "open" file (← openInput d file)
    | .output d writing w => do
      let file ← expandText n w
      refused "create" file (← openOutput d writing file)
    | .made d w => do
      let file ← expandText n w
      if ← refused "create" file (← openOutput d .further file) then refused "open" file (← openInput d file)
      else return false
    | .copy d w => do
      let text ← expandText n w
      if text = ['-'] then
        modifyProcess fun p => { p with descriptors := p.descriptors.filter (·.1 != d) }
        return true
      match (Text.digits? 10 text).bind (← process).channel? with
      | some c =>
        modifyProcess (·.connect d c)
        return true
      | none =>
        complain (text ++ ": Bad file descriptor".toList)
        setStatus 2
        return false
    | .document d w => do
      let text ← expandText n w
      modify fun s =>
        let (c, m) := s.machine.newSource text
        { s with machine := m, process := s.process.connect d c }
      return true

/-- Runs the script that a text is. -/
def runText : Nat → Nat → List Char → Run Unit
  | 0, _, _ => exhausted
  | n + 1, line, text => do
    let s := Script.ofText line text
    if s.isBlank then setStatus 0
    s.lines.forM (exec n)
    match s.fault with
    | some fault =>
      modifyProcess fun p => { p with line := fault.line }
      fail ("Syntax error: ".toList ++ fault.text.toList) 2
    | none => pure ()

/-- Runs a job to the end of its process: with what is to be done then, and the children that are left. -/
def toEnd : Nat → Run Unit → Run Unit
  | 0, _ => exhausted
  | n + 1, job => do
    uptoSignal job
    let p ← process
    match p.traps.lookup "EXIT" with
    | some action =>
      modifyProcess fun p => { p with traps := p.traps.filter (·.1 != "EXIT") }
      uptoSignal do
        runText n 1 action
        setStatus p.status
    | none => pure ()
    runLater n

/-- Runs the children that are left. -/
def runLater : Nat → Run Unit
  | 0 => exhausted
  | n + 1 => do
    let s ← get
    match s.later with
    | [] => pure ()
    | (p, c) :: others =>
      set { s with later := others }
      let ending ← runAs p (toEnd n (exec n c))
      modify fun s => { s with ended := (p.number, ending) :: s.ended }
      runLater n

/-- Does what is to be done on the signals that came. -/
def runPending : Nat → Run Unit
  | 0 => exhausted
  | n + 1 => do
    let p ← process
    match p.pending with
    | [] => pure ()
    | name :: others =>
      modifyProcess fun p => { p with pending := others }
      runText n 1 ((p.traps.lookup name).getD [])
      setStatus p.status
      runPending n

/-- Runs what was found under a name, as the process itself. -/
def launch : Nat → List Char → String × Node → List (List Char) → Run Unit
  | 0, _, _, _ => exhausted
  | n + 1, called, (path, node), arguments =>
    match node with
    | .program .env => withVariables n called arguments
    | .program p =>
      match utility? p called arguments with
      | some job => job
      | none => shell n called arguments
    | .file bytes _ =>
      match interpreter? bytes with
      | some (program, argument) => do
        let s ← get
        match s.machine.tree.program s.process.directory program with
        | .ok found => launch n (encoded program) found ((argument.map encoded).toList ++ encoded path :: arguments)
        | .error _ => fail (called ++ ": not found".toList) 127
      | none => shell n "sh".toList (encoded path :: arguments)
    | _ => setStatus 126

/-- Runs a program with variables set another way, or lists the variables. -/
def withVariables : Nat → List Char → List (List Char) → Run Unit
  | 0, _, _ => exhausted
  | n + 1, called, arguments => do
    match arguments with
    | ['-', 'i'] :: rest | ['-'] :: rest =>
      modifyProcess fun p => { p with bindings := [] }
      withVariables n called rest
    | ['-', 'u'] :: name :: rest =>
      modifyProcess (·.unset name)
      withVariables n called rest
    | ['-', '-'] :: rest => withVariables n called rest
    | ('-' :: 'S' :: text) :: rest =>
      withVariables n called (((Text.pieces ' ' text).filter (!·.isEmpty)) ++ rest)
    | ('-' :: c :: _) :: _ =>
      Utility.warn called ("invalid option -- ".toList ++ Utility.quoted [c] ++ Utility.seeHelp called) 125
    | [] =>
      let p ← process
      (p.environment []).reverse.forM fun (name, v) => write 1 (name ++ '=' :: v.value.getD [] ++ ['\n'])
      setStatus 0
    | name :: rest =>
      if name.contains '=' then
        let x := name.takeWhile (· != '=')
        modifyProcess fun p => p.restore x (some ⟨some (name.drop (x.length + 1)), true, false⟩)
        withVariables n called rest
      else
        let s ← get
        match s.machine.tree.executable s.process.directory s.process.searchPath (decoded name) with
        | .ok found => launch n name found rest
        | .error fault =>
          Utility.warn called (Utility.quoted name ++ ": ".toList ++ (reason fault).toList) (if fault = .notFound then 127 else 126)
          if fault = .notFound && name.contains ' ' then
            write 2 (called ++ ": use -[v]S to pass options in shebang lines\n".toList)

/-- Runs a shell. -/
def shell : Nat → List Char → List (List Char) → Run Unit
  | 0, _, _ => exhausted
  | n + 1, called, arguments => do
    let (settings, rest) := Setting.read true arguments
    let isOwn : Setting → Bool
      | .letter _ c => c != 'c' && c != 'l'
      | _ => true
    let isCommand := settings.any fun | .letter _ c => c = 'c' | _ => false
    modifyProcess fun p => { p with
      shell := p.number, name := called, line := 0, builtin := none, status := 0, functions := [], traps := [], options := []
      aliases := [], inFunction := false, guarded := false }
    startingVariables.forM fun (name, value) => modifyProcess fun p =>
      if name = "IFS" || name = "OPTIND" || (p.lookup? name.toList).isNone then p.restore name.toList (some ⟨some value.toList, false, false⟩)
      else p
    (settings.filter isOwn).forM fun o => do
      Builtin.apply o
      if (← process).status != 0 then throw .exit
    match isCommand, rest with
    | true, [] => fail "-c requires an argument".toList 2
    | true, text :: rest =>
      modifyProcess fun p => { p.setArguments (rest.drop 1) with name := rest.headD called }
      toEnd n (runText n 1 text)
    | false, file :: rest =>
      if (← process).hasOption 's' then
        modifyProcess fun p => p.setArguments (file :: rest)
        toEnd n (runText n 1 (← Utility.takeInput))
      else
        modifyProcess fun p => p.setArguments rest
        match ← openInput 10 file with
        | some cause => fail ("cannot open ".toList ++ file ++ ": ".toList ++ cause.toList) 2
        | none =>
          let s ← get
          let text := s.machine.unreadOf ((s.process.channel? 10).getD .nothing)
          modifyProcess fun p => { p with name := file, descriptors := p.descriptors.filter (·.1 != 10) }
          toEnd n (runText n 1 text)
    | false, [] => do
      modifyProcess fun p => (p.setArguments []).setOption true 's'
      let text ← Utility.takeInput
      toEnd n (runText n 1 text)

/-- Runs a program as a child. `added` are the variables that it gets besides those that every child gets. -/
def runProgram : Nat → List Char → List (List Char) → List (List Char) → Run Unit
  | 0, _, _, _ => exhausted
  | n + 1, name, arguments, added => do
    let s ← get
    let p := s.process
    match s.machine.tree.executable p.directory p.searchPath (decoded name) with
    | .error .notFound | .error .notADirectory =>
      complain (name ++ ": not found".toList)
      setStatus 127
    | .error fault =>
      complain (name ++ ": ".toList ++ (reason fault).toList)
      setStatus 126
    | .ok found =>
      let child ← fork
      settle (← runAs { child with bindings := p.environment added } (launch n name found arguments))

/-- A command of the shell itself. -/
def ownCommand? : Nat → String → List (List Char) → Option (Run Unit)
  | 0, _, _ => none
  | n + 1, name, arguments =>
    match name with
    | "eval" => some (runText n 1 (List.intercalate [' '] arguments))
    | "." => some do
      let file := arguments.headD []
      let path := if file.contains '/' then file else "./".toList ++ file
      let s ← get
      match s.machine.tree.read s.process.directory (decoded path) with
      | .ok bytes =>
        try runText n 1 (ofBytes bytes)
        catch
          | .back => pure ()
          | jump => throw jump
      | .error _ => fail (if file.contains '/' then "cannot open ".toList ++ file ++ ": No such file".toList else file ++ ": not found".toList) 2
    | "exec" => some do
      match arguments with
      | [] => setStatus 0
      | name :: arguments =>
        runProgram n name arguments []
        throw .exit
    | "command" => some do
      let g ← match Given.read "pvV".toList [] arguments with
        | .ok g => pure g
        | .error fault =>
          modifyProcess fun p => { p with builtin := some name.toList }
          refuse fault.message
          return
      match g.operands, g.letters.contains 'v', g.letters.contains 'V' with
      | [], _, _ => setStatus 0
      | name :: _, _, true => describe n true name
      | name :: _, true, false => describe n false name
      | name :: arguments, false, false =>
        within (fun p => { p with functions := [] }) (fun before after => { after with functions := before.functions })
          (invoke n name arguments [])
    | "type" => some do
      let statuses ← arguments.mapM fun name => do
        describe n true name
        return (← process).status
      setStatus (statuses.foldl max 0)
    | "hash" => some <| given "r" "" arguments fun g => do
      setStatus 0
      g.operands.forM fun name => do
        if (← stands? n name).isNone then
          complain (name ++ ": not found".toList)
          setStatus 1
    | "wait" => some <| given "" "" arguments fun g => do
      runLater n
      setStatus 0
      g.operands.forM fun a => do
        match a, Text.digits? 10 a with
        | '%' :: _, _ => refuse ("No such job: ".toList ++ a)
        | _, none => refuse ("Illegal number: ".toList ++ a)
        | _, some number =>
          match (← get).ended.lookup number with
          | none => setStatus 127
          | some ending =>
            settle ending
            let status := (← process).status
            modify fun s => { s with ended := (number, .status status) :: s.ended }
    | name => (builtin? name).map (· arguments)

/-- What a name stands for: the answer in a few words, and in a sentence. -/
def stands? : Nat → List Char → Run (Option (List Char × List Char))
  | 0, _ => exhausted
  | n + 1, name => do
    let s ← get
    let p := s.process
    let text := decoded name
    let sentence (what : String) : Option (List Char × List Char) := some (name, name ++ " is ".toList ++ what.toList)
    if Grammar.keywords.contains text then return sentence "a shell keyword"
    else if let some value := p.aliases.lookup name then
      return some ("alias ".toList ++ name ++ '=' :: Builtin.inQuotes value, name ++ " is an alias for ".toList ++ value)
    else if specialNames.contains text then return sentence "a special shell builtin"
    else if (p.functions.lookup name).isSome then return sentence "a shell function"
    else if (ownCommand? n text []).isSome then return sentence "a shell builtin"
    else return match s.machine.tree.executable p.directory p.searchPath text with
      | .ok (path, _) => some (encoded path, name ++ " is ".toList ++ encoded path)
      | .error _ => none

/-- Says what a name stands for. -/
def describe : Nat → Bool → List Char → Run Unit
  | 0, _, _ => exhausted
  | n + 1, inSentence, name => do
    match ← stands? n name with
    | some (words, sentence) =>
      write 1 ((if inSentence then sentence else words) ++ ['\n'])
      setStatus 0
    | none =>
      if inSentence then write 1 (name ++ ": not found\n".toList)
      setStatus 127

/-- Runs the named command, with variables set for it. -/
def invoke : Nat → List Char → List (List Char) → List (List Char × List Char) → Run Unit
  | 0, _, _, _ => exhausted
  | n + 1, name, arguments, values => do
    let p ← process
    let text := decoded name
    let set : Run Unit := values.forM fun (x, v) => assign x v
    let own (job : Run Unit) : Run Unit :=
      within (fun p => { p with builtin := if text == "command" then p.builtin else some name, lost := false })
        (fun before after => { after with builtin := before.builtin, lost := before.lost }) do
        job
        if (← process).lost then
          complain (name ++ ": I/O error".toList)
          modifyProcess fun p => { p with status := p.status ||| 1 }
    match specialNames.contains text, p.functions.lookup name, ownCommand? n text arguments with
    | true, _, some job =>
      set
      own job
    | _, some body, _ =>
      let entered (p : Process) : Process :=
        { p.setArguments arguments with inFunction := true, locals := [], loops := 0 }
      let left (before after : Process) : Process :=
        let after := after.locals.foldl (fun q (x, old) => q.restore x old) after
        { values.foldl (fun q (x, _) => q.restore x (before.bindings.lookup x)) after with
          arguments := before.arguments, nextOption := before.nextOption, inFunction := before.inFunction
          locals := before.locals, loops := before.loops }
      within entered left do
        set
        try exec n body
        catch
          | .back => pure ()
          | jump => throw jump
    | _, none, job? =>
      within id (fun before after => values.foldl (fun q (x, _) => q.restore x (before.bindings.lookup x)) after) do
        set
        match job? with
        | some job => own job
        | none => runProgram n name arguments (values.map Prod.fst)

/-- Runs a command. -/
def exec : Nat → Command → Run Unit
  | 0, _ => exhausted
  | n + 1, c => do
    if (← process).hasOption 'n' then return
    match c with
    | .nothing => pure ()
    | .simple line assignments words rs => do
      modifyProcess fun p => { p with line := line, captured := 0 }
      let fields ← expandFields n words
      let errors := (← process).channel? 2
      let shown (values : List (List Char × List Char)) : List (List Char) := values.map fun (x, v) => x ++ '=' :: v
      match fields with
      | [] =>
        if ← keepingDescriptors (redirect n rs) then
          let values ← assignments.mapM fun (x, w) => do
            let v ← expandValue n w
            assign x v
            return (x, v)
          trace errors (shown values)
          setStatus (← process).captured
      | [['e', 'x', 'e', 'c']] =>
        if ← redirect n rs then
          trace errors fields
          setStatus 0
        else throw .exit
      | name :: arguments =>
        keepingDescriptors do
          if ← redirect n rs then
            let values ← assignments.mapM fun (x, w) => do return (x, ← expandValue n w)
            trace errors (shown values ++ fields)
            invoke n name arguments values
          else if specialNames.contains (decoded name) then throw .exit
      runPending n
      checkFailure
    | .pipe first second => do
      let s ← get
      let (sink, m) := s.machine.newSink
      set { s with machine := m }
      let child ← fork
      let _ ← runAs (child.connect 1 sink) (toEnd n (exec n first))
      let t ← get
      let (text, m) := t.machine.takeSink sink
      let (source, m) := m.newSource text
      set { t with machine := m }
      let child ← fork
      settle (← runAs (child.connect 0 source) (toEnd n (exec n second)))
      checkFailure
    | .negated c => do
      guarded (exec n c)
      setStatus (if (← process).status = 0 then 1 else 0)
    | .both first second => do
      guarded (exec n first)
      if (← process).status = 0 then exec n second
    | .either first second => do
      guarded (exec n first)
      if (← process).status != 0 then exec n second
    | .sequence first second => do
      exec n first
      exec n second
    | .background c => do
      let child ← fork
      modify fun s => { s with
        later := s.later ++ [(child.connect 0 .nothing, c)]
        process := { s.process with lastChild := some child.number, status := 0 } }
    | .subshell c => do
      let child ← fork
      settle (← runAs child (toEnd n (exec n c)))
      checkFailure
    | .redirected line c rs => do
      modifyProcess fun p => { p with line := line }
      keepingDescriptors do if ← redirect n rs then exec n c
    | .branch condition yes no => do
      guarded (exec n condition)
      if (← process).status = 0 then exec n yes
      else match no with
        | some no => exec n no
        | none => setStatus 0
    | .loop inverted condition body => inLoop (spin n inverted condition body 0)
    | .each name words body => do
      let values ← expandFields n words
      setStatus 0
      inLoop (iterate n name values body)
    | .choice subject cases => do
      let text ← expandText n subject
      let fits (w : Word) : Run Bool := do
        return (Glob.ofGlyphs ((← expandWord n w).flatMap Segment.glyphs)).accepts text
      match ← cases.findM? fun (ws, _) => ws.anyM fits with
      | some (_, .nothing) | none => setStatus 0
      | some (_, body) => exec n body
    | .define name body => do
      modifyProcess fun p => { p with functions := (name, body) :: p.functions.filter (·.1 != name), status := 0 }

/-- Runs a loop, whose status is that of its body when it ran last. -/
def spin : Nat → Bool → Command → Command → Nat → Run Unit
  | 0, _, _, _, _ => exhausted
  | n + 1, inverted, condition, body, status => do
    if ← round (guarded (exec n condition)) then
      if ((← process).status = 0) == inverted then setStatus status
      else if ← round (exec n body) then spin n inverted condition body (← process).status

/-- Runs the body of a loop for each value. -/
def iterate : Nat → List Char → List (List Char) → Command → Run Unit
  | 0, _, _, _ => exhausted
  | _, _, [], _ => pure ()
  | n + 1, name, value :: values, body => do
    assign name value
    if ← round (exec n body) then iterate n name values body

end

end DeltaLint.Sandbox.Shell
