import DeltaLint.Sandbox.Shell.Utility.Basic

/-
  DeltaLint.Sandbox.Shell.Utility.Files — programs that look at paths and change files.
-/

namespace DeltaLint.Sandbox.Shell.Utility

open Run

/-- The path without slashes at its end, unless it is nothing but slashes. -/
def withoutEnd (path : List Char) : List Char :=
  let kept := (path.reverse.dropWhile (· == '/')).reverse
  if kept.isEmpty then path.take 1 else kept

def basename (name : List Char) (arguments : List (List Char)) : Run Unit := do
  match arguments with
  | [] => warn name ("missing operand".toList ++ seeHelp name) 1
  | path :: suffix =>
    let path := withoutEnd path
    let last := if path = ['/'] then path else (path.reverse.takeWhile (· != '/')).reverse
    let ending := suffix.headD []
    let last := if ending.isSuffixOf last && ending != last then last.take (last.length - ending.length) else last
    write 1 (last ++ ['\n'])
    setStatus 0

def dirname (name : List Char) (arguments : List (List Char)) : Run Unit := do
  if arguments.isEmpty then warn name ("missing operand".toList ++ seeHelp name) 1
  else
    setStatus 0
    arguments.forM fun path =>
      let path := withoutEnd path
      let parent := (path.reverse.dropWhile (· != '/')).reverse
      write 1 ((if parent.isEmpty then ['.'] else withoutEnd parent) ++ ['\n'])

/-! ## Lists of what is there -/

/-- The names in a directory that are shown: those that begin with a dot too, and the directory itself and the one above
it, or only the first of these. -/
def shownNames (letters : List Char) (t : Tree) (place : Place) : List String :=
  let names := t.children place
  let names :=
    if letters.contains 'a' then "." :: ".." :: names
    else if letters.contains 'A' then names else names.filter fun name => !name.startsWith "."
  if letters.contains 'r' then names.reverse else names

def ls (name : List Char) (arguments : List (List Char)) : Run Unit := do
  let (letters, paths) := lettersAndOthers arguments
  let lines (names : List String) : Run Unit := names.forM fun name => write 1 (encoded name ++ ['\n'])
  match letters.find? (!"aA1drFpCU".toList.contains ·) with
  | some c => warn name ("invalid option -- ".toList ++ quoted [c] ++ seeHelp name) 2
  | none =>
    let s ← get
    let t := s.machine.tree
    setStatus 0
    let found ← (if paths.isEmpty then [['.']] else paths).filterMapM fun path => do
      match t.resolve s.process.directory (decoded path) with
      | .ok place => return some (decoded path, place)
      | .error fault =>
        warn name ("cannot access ".toList ++ quoted path ++ ": ".toList ++ encoded (reason fault)) 2
        return none
    let (directories, files) := found.partition fun (_, place) => t.node? place == some .directory && !letters.contains 'd'
    lines ((files.map Prod.fst).mergeSort fun a b => a ≤ b)
    (directories.zipIdx).forM fun ((path, place), i) => do
      if 1 < paths.length then write 1 ((if i = 0 && files.isEmpty then [] else ['\n']) ++ encoded path ++ ":\n".toList)
      lines (shownNames letters t place)

def pwd : Run Unit := do
  let s ← get
  let here := s.process.directory
  write 1 (encoded (((s.machine.tree.resolve "/" here).map Tree.text).toOption.getD here) ++ ['\n'])
  setStatus 0

/-! ## Changes -/

/-- Changes the tree under each of the paths, or complains. -/
def eachPath (name what : List Char) (paths : List (List Char))
    (change : Tree → String → String → Except HostFault Tree) : Run Unit := do
  if paths.isEmpty then warn name ("missing operand".toList ++ seeHelp name) 1
  else
    setStatus 0
    paths.forM fun path => do
      let s ← get
      match change s.machine.tree s.process.directory (decoded path) with
      | .ok tree => modifyMachine fun m => { m with tree := tree }
      | .error fault => warn name (what ++ quoted path ++ ": ".toList ++ encoded (reason fault)) 1

def touch (name : List Char) (arguments : List (List Char)) : Run Unit :=
  eachPath name "cannot touch ".toList (lettersAndOthers arguments).2 fun tree directory path => do
    let place ← tree.creatable directory path
    return if (tree.node? place).isSome then tree else tree.put place (.file [] false)

def mkdir (name : List Char) (arguments : List (List Char)) : Run Unit :=
  let (letters, paths) := lettersAndOthers arguments
  eachPath name "cannot create directory ".toList paths fun tree directory path => do
    if letters.contains 'p' then return tree.makeDirectories directory path
    let place ← tree.entry directory path
    if (tree.node? place).isSome then throw (.other "File exists")
    return tree.put place .directory

def rm (name : List Char) (arguments : List (List Char)) : Run Unit := do
  let (letters, paths) := lettersAndOthers arguments
  if paths.isEmpty && letters.contains 'f' then setStatus 0
  else
    eachPath name "cannot remove ".toList paths fun tree directory path => do
      match tree.entry directory path with
      | .ok place =>
        match tree.node? place with
        | some .directory =>
          if letters.contains 'r' || letters.contains 'R' then return tree.remove place else throw .isADirectory
        | some _ => return tree.remove place
        | none => if letters.contains 'f' then return tree else throw .notFound
      | .error fault => if letters.contains 'f' then return tree else throw fault

/-- Puts a symbolic link to the first path under the second one, or into the directory that this is. -/
def ln (name : List Char) (arguments : List (List Char)) : Run Unit :=
  match lettersAndOthers arguments with
  | (letters, [target, path]) =>
    eachPath name "failed to create symbolic link ".toList [path] fun tree directory path => do
      let isInside := (tree.find directory path).toOption == some .directory
      let last := decoded (((withoutEnd target).reverse.takeWhile (· != '/')).reverse)
      let place ← tree.entry directory (if isInside then Path.join path last else path)
      if !letters.contains 's' then throw (.other "Operation not supported")
      if (tree.node? place).isSome && !letters.contains 'f' then throw (.other "File exists")
      return tree.put place (.link (decoded target))
  | (_, paths) => warn name ((if paths.isEmpty then "missing file operand".toList else "extra operand".toList) ++ seeHelp name) 1

end DeltaLint.Sandbox.Shell.Utility
