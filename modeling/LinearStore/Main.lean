import LinearStore.CommandLine.Program

set_option autoImplicit false

namespace LinearStore.CommandLine

def faultOf : IO.Error → FileFault
  | .inappropriateType _ code _ => if code = 20 then .notDirectory else .isDirectory
  | .invalidArgument .. => .nameTooLong
  | .permissionDenied .. => .denied
  | _ => .missing

def textOf (bytes : ByteArray) : Except FileFault String :=
  match String.fromUTF8? bytes with
  | some text => .ok text
  | none => .error .notText

def readFile (path : String) : IO (Except FileFault String) := do
  match ← (IO.FS.readBinFile path).toBaseIO with
  | .ok bytes => return textOf bytes
  | .error error => return .error (faultOf error)

def readInput : IO (Except FileFault String) := do
  return textOf (← (← IO.getStdin).readBinToEnd)

def scriptPath : Option Request → Option String
  | some (.command _ (.run path _)) | some (.command _ (.check path)) => some path
  | _ => none

def readScript (arguments : List String) : IO (Except FileFault String) :=
  match scriptPath (request? arguments) with
  | none => pure (.error .missing)
  | some "-" => readInput
  | some path => readFile path

def start (arguments : List String) : IO UInt32 := do
  let contents ← readScript arguments
  let filter ← IO.getEnv "LINEAR_EXTERN_LOG"
  let ending := program ⟨filter, contents, fun _ => contents⟩ arguments
  (← IO.getStdout).putStr ending.output
  (← IO.getStderr).putStr ending.errors
  return UInt32.ofNat ending.code

end LinearStore.CommandLine

def main (arguments : List String) : IO UInt32 := LinearStore.CommandLine.start arguments
