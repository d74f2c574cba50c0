import Lexicon.Command

/-!
# The program

Brings a run of the command line to the disk: the directories that the
settings and the arguments lead to are read into a tree, the run is computed
on it, and what it changed is written back. A file that is new in one place
and gone from another was moved, and is moved on the disk too, so that it
keeps its time.
-/

namespace Lexicon.Program

open Lexicon

/-- The string of a text; a surrogate shows as the replacement character. -/
def spell (t : Text) : String :=
  String.ofList (t.map fun c =>
    if c.isSurrogate then Char.ofNat 0xFFFD else Char.ofNat c.val)

/-- The string of a place's path. -/
def spellPlace : Place → String
  | [] => "."
  | first :: rest =>
    if first = [Path.slash] then "/" ++ spell (Text.join Path.slash rest)
    else spell (Text.join Path.slash (first :: rest))

/-- A time of the disk in nanoseconds. -/
def nanoseconds (t : IO.FS.SystemTime) : Int :=
  t.sec * 1000000000 + t.nsec.toNat

/-- The tree at a path of the disk, if there is one. -/
partial def load (path : String) : IO (Option FileTree) := do
  let file := (← IO.currentDir) / path
  if !(← file.pathExists) then
    return none
  if ← file.isDir then
    let mut entries := []
    for entry in ← file.readDir do
      if let some t ← load s!"{path}/{entry.fileName}" then
        entries := (lit entry.fileName, t) :: entries
    return some (.dir entries)
  let data ← IO.FS.readBinFile file
  let info ← file.metadata
  return some (.file ⟨Content.ofBytes data.toList, nanoseconds info.modified⟩)

/-- The tree with what the disk holds at a place, or above it where a plain
file is in the way. -/
def mount (t : FileTree) (place : Place) : IO FileTree := do
  let mut t := t
  for n in List.range place.length do
    let above := place.take (n + 1)
    let file := (← IO.currentDir) / spellPlace above
    if ← file.pathExists then
      if n + 1 = place.length || !(← file.isDir) then
        if let some found ← load (spellPlace above) then
          t := t.put above found
          if !found.isDir then
            return t
      else if (t.lookup above).isNone then
        t := t.put above (.dir [])
  return t

/-- The setting of a path, with its double dots followed on the disk. -/
def settle (setting? : Option String) : IO (Option Text) := do
  match setting? with
  | none => return none
  | some s =>
    if (Path.ofText (lit s)).parts.contains Path.dotDot then
      return some (lit (toString (← IO.FS.realPath ((← IO.currentDir) / s))))
    return some (lit s)

/-- The settings of the process. -/
def environment : IO Environment := do
  return {
    storageRoot? := ← settle (← IO.getEnv "DICTPACK_STORAGE_ROOT")
    assetDir? := ← settle (← IO.getEnv "DICTPACK_ASSET_DIR")
    dictSuffix? := (← IO.getEnv "DICTPACK_DICT_SUFFIX").map lit
    enabledLocales? := (← IO.getEnv "DICTPACK_ENABLED_LOCALES").map lit
    home := lit ((← IO.getEnv "HOME").getD "/") }

/-- The places that a run can reach. -/
def reach (e : Environment) (arguments : List Text) : List Place :=
  let settings := match e.settings with
    | .error _ => []
    | .ok s => [s.storageRoot, s.assetDir]
  let destination := match Command.modeOf arguments with
    | .writeTo path => [path.parent]
    | _ => []
  (settings ++ destination).map fun p => p.start ++ p.parts

/-- Writes what a run changed back to the disk. -/
def commit (before after : FileTree) : IO Unit := do
  let mut gone := []
  for (place, t) in before.descendants do
    if let .file f := t then
      if (after.lookup place).isNone then
        gone := (place, f) :: gone
  for (place, t) in after.descendants do
    match t, before.lookup place with
    | .dir _, some _ => pure ()
    | .dir _, none => IO.FS.createDirAll (spellPlace place)
    | .file f, old? =>
      let same := match old? with
        | some (.file g) => decide (f = g)
        | _ => false
      if !same then
        match gone.find? (·.2 = f) with
        | some (source, _) =>
          gone := gone.filter (·.1 ≠ source)
          IO.FS.rename (spellPlace source) (spellPlace place)
        | none =>
          IO.FS.writeBinFile (spellPlace place)
            (ByteArray.mk f.content.toBytes.toArray)
  for (place, _) in gone do
    IO.FS.removeFile (spellPlace place)

/-- The name of a level in the log. -/
def levelName : Level → String
  | .debug => "DEBUG"
  | .info => "INFO"
  | .warning => "WARNING"
  | .error => "ERROR"

/-- Adds the lines of a run to its log file, if it has one. -/
def keepLog (e : Environment) (after : FileTree) (lines : List String) :
    IO Unit := do
  let .ok root := e.storageRoot | return
  let .ok place := after.locate (Command.logFile root) | return
  if (after.lookup place).any FileTree.isFile then
    IO.FS.withFile (spellPlace place) .append fun handle =>
      lines.forM handle.putStrLn

end Lexicon.Program

open Lexicon Lexicon.Program in
/-- Runs the command line. -/
def main (arguments : List String) : IO UInt32 := do
  let e ← environment
  let arguments := arguments.map lit
  let before ← (reach e arguments).foldlM mount (.dir [])
  let done := Command.run e arguments { tree := before }
  commit before done.tree
  let lines := done.log.map fun l => s!"{levelName l.level} - {spell l.message}"
  keepLog e done.tree lines
  lines.forM fun line => IO.eprintln line
  match done.value with
  | .ok printed =>
    IO.print (spell printed)
    return 0
  | .error error =>
    IO.eprintln (spell error.message)
    return 1
