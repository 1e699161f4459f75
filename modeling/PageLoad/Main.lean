import PageLoad.Session

/-!
The program. It opens no connections, so whatever it asks for is out of reach, and a server
that is to be started cannot listen.
-/

namespace PageLoad

partial def readToEnd (stream : IO.FS.Stream) (start : ByteArray) : IO ByteArray := do
  let chunk ← stream.read 65536
  if chunk.isEmpty then return start else readToEnd stream (start ++ chunk)

def present (logLevel : Option String) (session : Session) : IO UInt32 := do
  for entry in session.log do
    if entry.isShown logLevel then IO.eprintln entry.line
  for line in session.output do
    IO.println line
  if let some complaint := session.ending.complaint? then IO.eprintln complaint
  return session.ending.exitCode.toUInt32

def run (arguments : List String) : IO UInt32 := do
  match Cli.readInvocation arguments with
  | .error error => present none (.declined error)
  | .ok ⟨_, .serve settings⟩ => do
    IO.eprintln ("Error: cannot listen at " ++ settings.host.text)
    return 2
  | .ok ⟨logLevel, command⟩ => do
    let input ← readToEnd (← IO.getStdin) .empty
    present logLevel (.performAlone command input.toList)

end PageLoad

def main (arguments : List String) : IO UInt32 := PageLoad.run arguments
