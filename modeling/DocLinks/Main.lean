import DocLinks.Program
import DocLinks.Tree.Edit
import Std.Async.DNS
import Std.Async.TCP

namespace DocLinks.Main

/-- Where a place is on the disk. -/
def diskPath (place : Location) : String := String.ofList ('/' :: List.intercalate ['/'] place.reverse)

/-- Takes what the disk has at a place into the tree. Of a symbolic link that leads somewhere, the target is
where it leads in the end. -/
def lookAt (place : Location) : StateT Tree IO Unit := do
  let here ← IO.currentDir
  match ← (here / diskPath place).symlinkMetadata.toBaseIO with
  | .error _ => return
  | .ok status =>
    match status.type with
    | .dir => modify (·.set place .folder)
    | .symlink =>
      match ← (here / diskPath place).metadata.toBaseIO with
      | .ok _ =>
        let target ← IO.FS.realPath (diskPath place)
        modify (·.set place (.link target.toString.toList))
      | .error (.noFileOrDirectory ..) => modify (·.set place (.link ['/', '\x00']))
      | .error _ => modify (·.set place (.link (diskPath place).toList))
    | _ =>
      let content ← (IO.FS.readBinFile (diskPath place)).toBaseIO
      modify (·.set place (.file (.ofOctets ((content.toOption.getD .empty).toList))))

/-- Looks at all that lies on a way, and tells where it ends. -/
partial def lookAlong (place : Location) : List Name → StateT Tree IO (Option Location)
  | [] => return some place
  | step :: rest => do
    if Path.isIdle step then lookAlong place rest
    else if step = ['.', '.'] then lookAlong place.tail rest
    else
      if ((← get).lookup? (step :: place)).isNone then lookAt (step :: place)
      match (← get).lookup? (step :: place) with
      | none => return none
      | some (.link target) =>
        if target = (diskPath (step :: place)).toList then return none
        else lookAlong [] (Path.pieces target ++ rest)
      | some _ => lookAlong (step :: place) rest

def lookAtPath (path : Path) : StateT Tree IO (Option Location) := do
  let t ← get
  lookAlong (if path.isAbsolute then [] else t.workFolder) path.pieces

/-- Looks at all that is below a place, and below the places that symbolic links lead to from there. -/
partial def lookBelow (place : Location) : StateT (List Location) (StateT Tree IO) Unit := do
  let seen ← get
  if seen.contains place then return
  modify (place :: ·)
  let t ← getThe Tree
  if t.lookup? place = some .folder then
    let here ← IO.currentDir
    for entry in ← (here / diskPath place).readDir do
      if let some next ← lookAlong place [entry.fileName.toList] then lookBelow next

/-- Looks at all that a run with these settings asks about. -/
def lookFor (o : Options) : StateT Tree IO Unit := do
  for setting in o.path :: o.docsRoot.toList ++ o.staticRoot.toList do
    if let some path := setting.text? then discard <| lookAtPath path
  if let some path := o.path.text? then
    if let some place ← lookAtPath path then discard <| (lookBelow place).run []
  let t ← get
  if let .ok config := Config.ofOptions t o then
    if let .ok files := t.markdownFiles config.path then
      for file in files do
        if let .ok text := t.read file then
          for o in occurrences text file do
            if let .file _ path := (config.context t).aim o then discard <| lookAtPath path

def workPlace : IO Location := do
  return (Path.steps (← IO.currentDir).toString.toList).reverse

/-- The address of a host. -/
def addressOf : Host → IO (Option Std.Net.IPAddr)
  | .ipv4 a =>
    return some (.v4 (.ofParts (.ofNat (a / 16777216)) (.ofNat (a / 65536)) (.ofNat (a / 256)) (.ofNat a)))
  | .ipv6 [a, b, c, d, e, f, g, h] =>
    return some (.v6 (.ofParts (.ofNat a) (.ofNat b) (.ofNat c) (.ofNat d) (.ofNat e) (.ofNat f) (.ofNat g)
      (.ofNat h)))
  | .ipv6 _ => return none
  | .name n => do
    match ← (Std.Async.DNS.getAddrInfo (String.ofList n) "").block.toBaseIO with
    | .ok addresses => return addresses[0]?
    | .error _ => return none

partial def receiveAll (socket : Std.Async.TCP.Socket.Client) (received : ByteArray) : IO ByteArray := do
  match ← (socket.recv? 65536).block.toBaseIO with
  | .ok (some more) => receiveAll socket (received ++ more)
  | _ => return received

/-- Sends the request for a page and reads the reply. No secure connection comes about. -/
def exchange (u : Url) : IO (Except Text Reply) := do
  let some authority := u.authority | return .error "invalid URL, host is missing".toList
  let some port := u.port? | return .error "invalid URL, host is missing".toList
  if u.scheme ≠ "http".toList then return .error "invalid URL, scheme is not http".toList
  let some address ← addressOf authority.host
    | return .error "dns error: failed to lookup address information".toList
  let place : Std.Net.SocketAddress := match address with
    | .v4 a => .v4 ⟨a, .ofNat port⟩
    | .v6 a => .v6 ⟨a, .ofNat port⟩
  let socket ← Std.Async.TCP.Socket.Client.mk
  match ← (socket.connect place).block.toBaseIO with
  | .error e => return .error ("tcp connect error: ".toList ++ e.toString.toList)
  | .ok () =>
    let serverName := { authority with user := [], password := none }.text
    (socket.send (String.ofList (Request.message ⟨u.target⟩ serverName)).toUTF8).block
    return .ok (.ofMessage (RawText.ofOctets (← receiveAll socket .empty).toList).shown)

/-- What comes of an exchange, or silence if it takes longer than to a moment. -/
partial def waitUntil (moment : Option Nat) (task : Task (Except IO.Error (Except Text Reply))) :
    IO (Except Text Reply) := do
  let now ← IO.monoMsNow
  if ← IO.hasFinished task then
    match ← IO.wait task with
    | .ok reply => return reply
    | .error e => return .error e.toString.toList
  else if moment.any (· ≤ now) then return .ok .silence
  else
    IO.sleep 10
    waitUntil moment task

def exchangeWithin (timeout : Option Nat) (u : Url) : IO (Except Text Reply) := do
  let now ← IO.monoMsNow
  waitUntil (timeout.map (now + 1000 * ·)) (← IO.asTask (exchange u))

def run (args : List String) : IO UInt32 := do
  let args : List RawText := args.map fun arg => .ofText arg.toList
  let mut t := Tree.ofWorkFolder (← workPlace)
  let mut outcomes : List (Text × ProbeOutcome) := []
  if let .ok i := CommandLine.Invocation.parse args then
    t := (← (lookFor i.options).run t).2
    for link in (program t args fun _ _ => .status 200).probed.eraseDups do
      let fetch ← Fetch.page .standard (exchangeWithin i.timeout) i.timeout link
      outcomes := (link, fetch.outcome) :: outcomes
  let display := program t args fun _ link => (outcomes.lookup link).getD (.status 200)
  for notice in display.notices do
    IO.eprintln (String.ofList notice)
  IO.print (String.ofList display.output)
  return .ofNat display.exitCode

end DocLinks.Main

def main (args : List String) : IO UInt32 := DocLinks.Main.run args
