import RanSlicing.App.Operator
import RanSlicing.App.Program

/-!
# Entry point

Runs the program on the disk and the clock of a machine. Nothing is decided here: files and
environment are read and handed to `Session.prepare`, every cycle is one `ControlLoop.step`, and what
it has kept is written back. While the loop runs, the operator may type numbers of slices.

There is no network below this program: in live mode every request fails.
-/

namespace RanSlicing.Machine

/-- Adds a file of the disk, if it can be read. -/
def addFile (fs : Files) (path : String) : IO Files := do
  try
    let bytes ← IO.FS.readBinFile path
    return fs.put (Path.ofString path) (.ofBytes bytes.toList)
  catch _ => return fs

/-- Adds the names in a directory of the disk; what the files hold does not matter. -/
def addNames (fs : Files) (dir : String) : IO Files := do
  try
    let place ← IO.FS.realPath dir
    if ← place.isDir then
      let mut fs := fs.addDirectories (Path.ofString dir)
      for entry in ← place.readDir do
        fs := fs.put (Path.ofString (Path.join dir entry.fileName)) .undecodable
      return fs
    else if ← place.pathExists then return fs.put (Path.ofString dir) .undecodable
    else return fs
  catch _ => return fs

/-- The variables of the environment. -/
def environment : IO (List (String × String)) := do
  try
    let bytes ← IO.FS.readBinFile "/proc/self/environ"
    let entries := (String.fromUTF8? bytes).map (fun s => s.splitOn (String.singleton (Char.ofNat 0)))
    return (entries.getD []).filterMap (fun e =>
      match e.splitOn "=" with
      | name :: rest => if rest.isEmpty then none else some (name, String.intercalate "=" rest)
      | [] => none)
  catch _ => return []

/-- The files that a cycle can meet. -/
def surroundings (s : Session) : IO Files := do
  let fs ← addNames .empty s.config.policy.outputDir
  match s.source with
  | .stored path => addFile fs path
  | .live _ => return fs

/-- Writes the files that a cycle has added. -/
def writeBack (dir : String) (before after : Files) : IO Unit := do
  for (path, content) in after.entries do
    if let .text s := content then
      unless before.taken path do
        let name := Path.toString (path.drop (Path.ofString dir).length)
        try
          IO.FS.createDirAll dir
          IO.FS.writeFile (Path.join dir name) s
        catch e => IO.eprintln ("cannot keep a policy: " ++ toString e)

/-- Logs the requests behind the first `known` ones. -/
def logRequests (s : Session) (filter : LogFilter) (known : Nat) (sent : List Command) : IO Unit :=
  if filter.shows Program.requestTarget .info then
    for line in (s.requests sent).drop known do
      IO.println ("POST " ++ line)
  else return

/-- Waits some milliseconds. -/
def pause (ms : Millis) : IO Unit := IO.sleep (UInt32.ofNat (min ms (UInt32.size - 1)))

/-- Takes what the operator types until the input ends. -/
partial def serveOperator (count : IO.Ref SliceCount) : IO Unit := do
  let line ← (← IO.getStdin).getLine
  unless line.isEmpty do
    count.modify (fun n => Operator.step n line.toList)
    serveOperator count

/-- Runs cycles; gives their number. -/
partial def serveCycles (s : Session) (filter : LogFilter) (count : IO.Ref SliceCount)
    (l : ControlLoop Float) (sent : List Command) (done : Nat) : IO Nat := do
  let fs ← surroundings s
  let l := { l with files := fs, count := ← count.get }
  let (l, r) := l.step s.loopConfig (s.turn fs (fun _ => .hangUp))
  writeBack s.config.policy.outputDir fs l.files
  let pushed := r.exchanges.map (fun x => Command.policy x.push.bsId x.push.body)
  logRequests s filter sent.length (sent ++ pushed)
  if s.loopConfig.maxCycles.any (· ≤ done + 1) then return done + 1
  pause s.loopConfig.interval
  serveCycles s filter count l (sent ++ pushed) (done + 1)

/-- Starts the commands, the prompt and the loop. -/
def serve (s : Session) (filter : LogFilter) : IO Unit := do
  logRequests s filter 0 s.startCommands
  let count ← IO.mkRef s.count
  let _ ← IO.asTask (serveOperator count) .dedicated
  pause s.loopConfig.initialDelay
  let done ← serveCycles s filter count (s.loop .empty) s.startCommands 0
  if filter.shows Program.mainTarget .info then
    IO.println ("RRM app shutdown complete after " ++ Program.farewell done)

/-- The files that are read before the loop starts. -/
def startFiles (a : Arguments) (environment : List (String × String)) : IO Files := do
  let fs ← addFile (← addFile .empty a.config) (a.config ++ ".toml")
  match AppConfig.load? fs a.config environment with
  | none => return fs
  | some c =>
    let c := a.override c
    let fs ← addFile fs c.storedReport
    match c.policy.template with
    | some path => addFile fs path
    | none => return fs

end RanSlicing.Machine

open RanSlicing

/-- Runs the program; gives its exit code. -/
def main (words : List String) : IO UInt32 := do
  match Arguments.parse? words with
  | none =>
    IO.eprintln "error: the command line makes no sense"
    return 2
  | some a =>
    let environment ← Machine.environment
    let (filter, complaints) := Program.logFilter a environment
    complaints.forM (fun c => IO.eprintln c)
    match Session.prepare a (← Machine.startFiles a environment) environment with
    | .error h =>
      IO.eprintln ("Error: " ++ h.message)
      return 1
    | .ok s =>
      Machine.serve s filter
      return 0
