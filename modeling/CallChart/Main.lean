import CallChart.Launch.Environment
import CallChart.Launch.Run
import Std.Time.DateTime.Timestamp

namespace CallChart.Main

def planted (path : String) (entry : Entry) (fs : Files) : Files :=
  let steps := Files.steps path
  match fs.makeDirectories (Files.parent path) with
  | (.ok (), fs) => if steps = [] then fs else fs.put steps entry
  | (.error _, _) => fs

/-- Puts a file or directory of the machine into the tree, if it can be read. Scripts count as
executable. -/
def fetch (path : String) (fs : Files) : IO Files := do
  try
    let bytes := (← IO.FS.readBinFile path).toList
    let script := Text.startsWith "#!" (Utf8.decodeLossy (bytes.take 2))
    pure (planted path (.file bytes script) fs)
  catch e =>
    match e with
    | .inappropriateType .. => pure (planted path .directory fs)
    | _ => pure fs

def fetchAll (paths : List String) (fs : Files) : IO Files :=
  paths.foldlM (fun fs path => fetch path fs) fs

def writeBack (before after : Files) : IO Unit :=
  for (path, entry) in after.entries.reverse do
    if before.lookup? path ≠ some entry then
      match entry with
      | .directory => IO.FS.createDirAll (Files.written path)
      | .file bytes _ => IO.FS.writeBinFile (Files.written path) ⟨bytes.toArray⟩

def storedPaths (s : Launch.Settings) (fs : Files) : List String :=
  match s.cacheDir, Launch.readAnalysis s fs with
  | some directory, .ok analysis =>
    let fp := (Launch.rendererOf s analysis).fingerprint s.options
    let entry := Cache.entryDirectory directory fp
    [Cache.metadataFile, Cache.descriptionFile, Cache.imageFile s.output.format].map
      (Files.joined entry)
  | _, _ => []

def now : IO Timestamp := do
  let t ← Std.Time.Timestamp.now
  pure (Timestamp.ofSeconds t.toSecondsSinceUnixEpoch.val)

def environment : IO Launch.Environment :=
  ("PATH" :: Launch.Parsing.standIns.map (·.1)).filterMapM fun name => do
    pure ((← IO.getEnv name).map fun value => (name, value))

def usage : String :=
  "Usage: " ++ Program.name ++ " [OPTIONS] <PACKAGE>\n\nOptions:\n" ++
    String.join (Launch.Flag.names.map fun (name, _) => "  --" ++ name ++ "\n")

def fail (e : LaunchFailure) : IO UInt32 := do
  IO.eprint e.report
  pure (UInt32.ofNat e.exitCode)

def outputDirectory (s : Launch.Settings) : List String :=
  s.output.base.toList.map Files.parent

def launch (s : Launch.Settings) (environment : Launch.Environment) (fs : Files) : IO UInt32 := do
  let fs ← fetchAll ([s.graph, s.dot] ++ outputDirectory s ++ s.cacheDir.toList) fs
  let fs ← fetchAll (storedPaths s fs) fs
  let launched := Launch.run s environment (← now) fs
  writeBack fs launched.files
  match launched.outcome with
  | .done => pure 0
  | .failed e => fail e
  | .serving _ location => fail (Launch.unreachable location)

def refuse (refusal : Launch.Refusal) : IO UInt32 := do
  match refusal with
  | .help => IO.print usage
  | .version => IO.println (Program.name ++ " " ++ Program.version)
  | _ => IO.eprint usage
  pure (UInt32.ofNat refusal.exitCode)

end CallChart.Main

open CallChart in
def main (words : List String) : IO UInt32 := do
  let fs ← Main.fetchAll [Launch.Environment.file, Launch.Config.usualPath] .empty
  match Launch.Arguments.readWithFile (← Main.environment) fs words with
  | .error refusal => Main.refuse refusal
  | .ok (environment, a) =>
    let fs ← Main.fetchAll a.config.toList fs
    match Launch.Config.load fs a.config >>= Launch.Settings.resolve a with
    | .error e => Main.fail e
    | .ok s => Main.launch s environment fs
