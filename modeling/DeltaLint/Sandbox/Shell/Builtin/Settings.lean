import DeltaLint.Sandbox.Shell.Builtin.Variables

/-
  DeltaLint.Sandbox.Shell.Builtin.Settings — the options, the working directory and the mask of a shell.
-/

namespace DeltaLint.Sandbox.Shell.Builtin

open Run

/-! ## Options -/

/-- Lists the options. -/
def listOptions (on : Bool) : Run Unit := do
  let p ← process
  if on then
    write 1 "Current option settings\n".toList
    shellOptionNames.forM fun (name, c) =>
      let name := name.toList ++ List.replicate (16 - name.length) ' '
      write 1 (name ++ (if p.hasOption c then "on\n" else "off\n").toList)
  else
    shellOptionNames.forM fun (name, c) =>
      write 1 ("set ".toList ++ [if p.hasOption c then '-' else '+'] ++ "o ".toList ++ name.toList ++ ['\n'])

def setOption (on : Bool) (c : Char) : Run Unit := do
  if (shellOptionNames.map Prod.snd).contains c then modifyProcess (·.setOption on c)
  else refuse ("Illegal option -".toList ++ [c])

def apply : Setting → Run Unit
  | .letter on c => setOption on c
  | .named on name =>
    match shellOptionNames.lookup (String.ofList name) with
    | some c => setOption on c
    | none => refuse ("Illegal option ".toList ++ [if on then '-' else '+', 'o', ' '] ++ name)
  | .listing on => listOptions on
  | .quiet => modifyProcess fun p => (p.setOption false 'x').setOption false 'v'
  | .noArguments => modifyProcess (·.setArguments [])

/-- Lists all variables. -/
def listVariables : Run Unit := do
  let bindings := (← process).bindings.filterMap fun (name, v) => v.value.map (name, ·)
  (sortedByName bindings).forM fun (name, value) => write 1 (name ++ '=' :: inQuotes value ++ ['\n'])

/-- Sets options, and after them the arguments of the script where there are any. -/
def set (arguments : List (List Char)) : Run Unit := do
  setStatus 0
  if arguments.isEmpty then listVariables
  let (settings, rest) := Setting.read false arguments
  settings.forM apply
  if !rest.isEmpty then modifyProcess (·.setArguments rest)

/-! ## The working directory -/

/-- The directory that a path leads to, where one step up takes back one step down. -/
def stepped (current path : String) : String :=
  let isRooted := Path.isAbsolute path.toList
  let base := if isRooted then path.toList else current.toList
  let root := if base.take 2 = ['/', '/'] && (base.drop 2).head? != some '/' then "//" else "/"
  let names := (if isRooted then [] else Tree.segments current) ++ Tree.segments path
  let steps := names.foldl (fun steps name =>
    if name == "" || name == "." then steps else if name == ".." then steps.drop 1 else name :: steps) []
  root ++ "/".intercalate steps.reverse

/-- Where `cd` is to go, and whether it says where that is. -/
def destination (p : Process) (operands : List (List Char)) : List Char × Bool :=
  match operands with
  | [] => (p.value "HOME".toList, false)
  | ['-'] :: _ => (p.value "OLDPWD".toList, true)
  | path :: _ => (path, false)

def changeDirectory (arguments : List (List Char)) : Run Unit :=
  given "LP" "" arguments fun g => do
    let s ← get
    let tree := s.machine.tree
    let (path, isSaid) := destination s.process g.operands
    let physical := g.letters.getLast? = some 'P'
    let text := decoded path
    let target := if physical then Path.join s.process.directory text else stepped s.process.directory text
    match tree.resolve "/" target with
    | .ok place =>
      if tree.node? place == some .directory then
        let here := if physical then Tree.text place else target
        let old := s.process.directory
        modifyProcess fun p => { p with directory := here, status := 0 }
        [("OLDPWD", old), ("PWD", here)].forM fun (name, value) =>
          modifyProcess fun p => p.restore name.toList (some ⟨some (encoded value), true, false⟩)
        if isSaid then write 1 (encoded here ++ ['\n'])
      else refuse ("can't cd to ".toList ++ path)
    | .error _ => refuse ("can't cd to ".toList ++ path)

def workingDirectory (arguments : List (List Char)) : Run Unit :=
  given "LP" "" arguments fun g => do
    let s ← get
    let here := s.process.directory
    let physical := ((s.machine.tree.resolve "/" here).map Tree.text).toOption.getD here
    write 1 (encoded (if g.letters.getLast? = some 'P' then physical else here) ++ ['\n'])
    setStatus 0

/-! ## The mask -/

/-- The bits of one of the letters for what may be done, for each of the given kinds of users. -/
def modeBits (who : List Char) (c : Char) : Option Nat :=
  let bit? : Option Nat := match c with
    | 'r' => some 4
    | 'w' => some 2
    | 'x' => some 1
    | _ => none
  bit?.map fun bit => ([('u', 64), ('g', 8), ('o', 1)].filter fun (k, _) => who.contains k || who.contains 'a').foldl
    (fun bits (_, unit) => bits ||| bit * unit) 0

/-- What may be done after a change such as `g-w`. -/
def changedMode (allowed : Nat) (change : List Char) : Option Nat := do
  let who := change.takeWhile ("ugoa".toList.contains ·)
  let who := if who.isEmpty then ['a'] else who
  let operator :: letters := change.dropWhile ("ugoa".toList.contains ·) | none
  let bits ← letters.foldlM (fun bits c => (modeBits who c).map (bits ||| ·)) 0
  let all ← "rwx".toList.foldlM (fun bits c => (modeBits who c).map (bits ||| ·)) 0
  match operator with
  | '+' => return allowed ||| bits
  | '-' => return allowed &&& (0o777 ^^^ bits)
  | '=' => return allowed &&& (0o777 ^^^ all) ||| bits
  | _ => none

/-- What may be done, in letters. -/
def modeText (allowed : Nat) : List Char :=
  let letters (unit : Nat) : List Char :=
    [('r', 4), ('w', 2), ('x', 1)].filterMap fun (c, bit) => if allowed / unit / bit % 2 = 1 then some c else none
  "u=".toList ++ letters 64 ++ ",g=".toList ++ letters 8 ++ ",o=".toList ++ letters 1

def umask (arguments : List (List Char)) : Run Unit :=
  given "S" "" arguments fun g => do
    let mask := (← process).mask
    let become (mask : Nat) : Run Unit := modifyProcess fun p => { p with mask := mask, status := 0 }
    match g.operands with
    | [] =>
      let ds := Nat.toDigits 8 mask
      let text := if g.letters.isEmpty then List.replicate (4 - ds.length) '0' ++ ds else modeText (0o777 ^^^ mask)
      write 1 (text ++ ['\n'])
      setStatus 0
    | a :: _ =>
      if a.head?.any Char.isDigit then
        match Text.digits? 8 a with
        | some n => become (n % 0o1000)
        | none => refuse ("Illegal number: ".toList ++ a)
      else match (Text.pieces ',' a).foldlM changedMode (0o777 ^^^ mask) with
        | some allowed => become (0o777 ^^^ allowed)
        | none => refuse ("Illegal mode: ".toList ++ a)

end DeltaLint.Sandbox.Shell.Builtin
