import ContentEngine.Fault
import ContentEngine.Log

/-!
# Media types

A detector names the media type of content, from the name of the content, if it has one, and from
its bytes. Detectors form a chain: the configured ones in their order and the detector by file
extension at the end. The first detector that answers wins; one that fails is logged and passed
over.
-/

namespace ContentEngine

/-- The bytes of some content. -/
abbrev Content := List UInt8

/-- Names the media type of content, or gives no answer, or fails. -/
abbrev Detector := Option String → Content → Except Failure (Option String)

namespace Detector

/-- The media types of file extensions. -/
def extensionTypes : List (String × String) := [
  ("pdf", "application/pdf"),
  ("txt", "text/plain"),
  ("text", "text/plain"),
  ("md", "text/markdown"),
  ("csv", "text/csv"),
  ("htm", "text/html"),
  ("html", "text/html"),
  ("css", "text/css"),
  ("js", "application/javascript"),
  ("xml", "application/xml"),
  ("json", "application/json"),
  ("yaml", "application/yaml"),
  ("yml", "application/yaml"),
  ("png", "image/png"),
  ("jpg", "image/jpeg"),
  ("jpeg", "image/jpeg"),
  ("gif", "image/gif"),
  ("svg", "image/svg+xml"),
  ("tif", "image/tiff"),
  ("tiff", "image/tiff"),
  ("zip", "application/zip"),
  ("jar", "application/java-archive"),
  ("gz", "application/gzip"),
  ("doc", "application/msword"),
  ("docx", "application/vnd.openxmlformats-officedocument.wordprocessingml.document"),
  ("xls", "application/vnd.ms-excel"),
  ("xlsx", "application/vnd.openxmlformats-officedocument.spreadsheetml.sheet"),
  ("ppt", "application/vnd.ms-powerpoint"),
  ("mp3", "audio/mpeg"),
  ("mp4", "video/mp4")]

/-- The extension of a name: what follows the last dot of its last piece between slashes, if there
is something before that dot. -/
def extensionOf? (name : String) : Option String :=
  let file := ((Text.pieces '/' name.toList).getLast?).getD []
  match Text.cutLast '.' file with
  | some (_ :: _, ext) => some (String.ofList ext)
  | _ => none

/-- The detector by file extension; the case of ASCII letters does not count. -/
def byExtension : Detector := fun name _ =>
  .ok ((name.bind extensionOf?).bind fun ext =>
    extensionTypes.lookup (String.ofList (ext.toList.map Char.toLower)))

/-- The detector with one answer for all content. -/
def fixed (mime : String) : Detector := fun _ _ => .ok (some mime)

/-- The detector of content that starts with given bytes. -/
def startingWith (bytes : Content) (mime : String) : Detector := fun _ content =>
  .ok (if bytes.isPrefixOf content then some mime else none)

/-- The detector of content that has a name. -/
def named (mime : String) : Detector := fun name _ =>
  .ok (if name.isSome then some mime else none)

/-- The detector that always fails. -/
def failing (failure : Failure) : Detector := fun _ _ => .error failure

/-- The detector that never answers. -/
def silent : Detector := fun _ _ => .ok none

end Detector

/-- A chain of detectors; the detector by extension follows the configured ones. -/
structure DetectorChain where
  configured : List (String × Detector)

namespace DetectorChain

/-- The detectors in the order in which they are asked. -/
def detectors (chain : DetectorChain) : List (String × Detector) :=
  chain.configured ++ [("extension", Detector.byExtension)]

/-- The names of the detectors in the order in which they are asked. -/
def names (chain : DetectorChain) : List String :=
  chain.detectors.map Prod.fst

/-- The first answer of a list of detectors, and the log lines about those that failed before. -/
def firstAnswer (name : Option String) (content : Content) :
    List (String × Detector) → Option String × List LogLine
  | [] => (none, [])
  | (label, detector) :: rest =>
    match detector name content with
    | .ok (some mime) => (some mime, [])
    | .ok none => firstAnswer name content rest
    | .error failure =>
      let (answer, lines) := firstAnswer name content rest
      (answer,
        ⟨.warning, "MIME type detector '" ++ label ++ "' failed: " ++ failure.outermost⟩ :: lines)

/-- The media type of content, and the log lines about detectors that failed. -/
def typeOf (chain : DetectorChain) (name : Option String) (content : Content) :
    Option String × List LogLine :=
  firstAnswer name content chain.detectors

/-- The chain as one detector. -/
def toDetector (chain : DetectorChain) : Detector := fun name content =>
  .ok (chain.typeOf name content).1

end DetectorChain

end ContentEngine
