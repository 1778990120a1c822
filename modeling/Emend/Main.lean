import Emend.Command.Execute

/-!
# The program

`main` reads the places that a command can ask for into a tree, does what the command line asks for,
prints what there is to print, and writes changed files back. What is read is a superset of what
`execute` looks at.

This is the outermost layer, and what `IO` does not offer is made up for here:

- `IO` does not tell the mode of a file. One that can be opened to be written is given the mode 644,
  and any other the mode 444. So a user who may write to every file is not told that one has no write
  bit.
- A new file could not be given the mode of the one that it takes the place of. So the texts that a
  command leaves in the tree are written over the old ones, when the command is done. The temporary
  files of `System.rewrite` are in the tree only, and so is what the system refuses there, which is
  taken to be what it refuses a superuser.
-/

namespace Emend.Program

/-- Puts an entry at a location, unless the place is known with as much as that. -/
def note (t : Tree) (l : Location) (e : Entry) : Tree :=
  match t.at? l with
  | none => { t with entries := t.entries ++ [(l, e)] }
  | some _ => { t with entries := t.entries.map fun old => if old.1 = l then (l, e) else old }

/-- The regular file at a path, with a mode that says whether it can be opened to be written. -/
def readFile (path : Path) : IO File := do
  let content ← IO.FS.readBinFile path
  let handle ← (IO.FS.Handle.mk path .readWrite).toBaseIO
  return { content, mode := if handle.toBool then 0o644 else 0o444 }

/-- What stands at a location, if anything does. A link is known by the path that it leads to; one
that leads nowhere is passed over. -/
def entryAt? (l : Location) : IO (Option Entry) := do
  let path := l.path
  match ← (IO.FS.realPath path).toBaseIO with
  | .error _ => return none
  | .ok real =>
    if real.toString != path then return some (.link real.toString)
    match (← real.metadata).type with
    | .dir => return some .directory
    | .file => return some (.file (← readFile path))
    | _ => return none

/-- Reads the entries of a directory. -/
def learnEntries (t : Tree) (l : Location) : IO Tree := do
  match ← (← IO.FS.realPath l.path).readDir.toBaseIO with
  | .error _ => return t
  | .ok found =>
    found.foldlM (fun t child => do
      let inner := l ++ [child.fileName]
      match ← entryAt? inner with
      | some e => return note t inner e
      | none => return t) t

/-- Reads what a path passes through, and the directory where it ends. -/
partial def learn (t : Tree) (l : Location) : List String → IO Tree
  | [] => learnEntries t l
  | name :: rest => do
    if name == "." then learn t l rest
    else if name == ".." then learn t l.dropLast rest
    else
      let inner := l ++ [name]
      match ← entryAt? inner with
      | none => learnEntries t l
      | some (.link target) =>
        learn (note t inner (.link target)) [] (Path.components target ++ rest)
      | some .directory => learn (note t inner .directory) inner rest
      | some (.file f) => learnEntries (note t inner (.file f)) l

/-- Reads what a path leads to. -/
def learnPath (t : Tree) (p : Path) : IO Tree :=
  learn t (Tree.startOf t.here p) (Path.components p)

/-- Reads what several paths lead to. -/
def learnPaths (t : Tree) (paths : List Path) : IO Tree := paths.foldlM learnPath t

/-- Reads what the plans for the project at a root ask for. -/
def learnProject (t : Tree) (root : Location) (plan : Option Path) : IO Tree := do
  let inside := ["package.json", "Cargo.toml"] ++ Workspace.protectedNames
  let t ← learnPaths t (inside.map (Path.join root.path))
  let t ← learnPaths t [planDirectory root, planDirectory t.here]
  let files := match plan with
    | some file => [file]
    | none => (discoverPlans t root).getD []
  match LoadedPlan.ofFiles t files with
  | .error _ => return t
  | .ok plans => learnPaths t (plans.flatMap fun p => p.plan.targets.map (Path.join root.path))

/-- Reads what a command asks for. -/
def learnCommand (e : Environment) (t : Tree) (c : Command) : IO Tree := do
  let options := c.planOptions
  let t ← learnPaths t (options.root.toList ++ options.plan.toList ++ e.projectRoot.toList)
  match ((Session.start e 0).1.root t options.root).run {} with
  | (.error _, _) => return t
  | (.ok root, _) => learnProject t root options.plan

/-- Writes changed files back, over what they hold. -/
def writeBack (t : Tree) : IO Unit :=
  t.entries.forM fun
    | (l, .file f) => if f.written then IO.FS.writeBinFile l.path f.content else pure ()
    | _ => pure ()

end Emend.Program

open Emend Emend.Program in
/-- Does what the command line asks for. -/
def main (arguments : List String) : IO UInt32 := do
  let e ← Environment.read fun name => IO.getEnv name
  let here ← IO.FS.realPath "."
  let t ← learnPath { entries := [] } here.toString
  let t := { t with here := Path.components here.toString }
  let t ← match Request.ofArguments arguments with
    | .ok (.run _ command) => learnCommand e t command
    | _ => pure t
  let outcome := execute e t arguments
  writeBack outcome.tree
  IO.print outcome.printed.out
  IO.eprint outcome.printed.err
  return outcome.exitCode.toUInt32
