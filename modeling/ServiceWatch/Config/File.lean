import ServiceWatch.Config.Document

/-!
# Configurations in files

What stands at a path decides first: nothing, a directory, or a file of bytes, which have to be a
text in UTF-8 before they can be a configuration.
-/

namespace ServiceWatch

/-- What stands at a path. -/
inductive Contents
  | nothing
  | directory
  | file (bytes : ByteArray)

/-- Why no configuration comes from a path. -/
inductive FileFault
  | notFound
  | isDirectory
  | notText
  | unreadable (f : ReadFault)

/-- The kind of the fault, as a file system names it. -/
def FileFault.kind : FileFault → String
  | notFound => "NotFound"
  | isDirectory => "IsADirectory"
  | notText => "InvalidData"
  | unreadable _ => "InvalidData"

/-- Whether the text is to blame, and not the file. -/
def FileFault.isOfText : FileFault → Bool
  | unreadable _ => true
  | _ => false

/-- The configuration at a path. -/
def Config.ofContents : Contents → Except FileFault Config
  | .nothing => .error .notFound
  | .directory => .error .isDirectory
  | .file bytes =>
    match String.fromUTF8? bytes with
    | some text => (Config.read text).mapError .unreadable
    | none => .error .notText

end ServiceWatch
