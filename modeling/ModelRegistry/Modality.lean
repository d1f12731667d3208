/-!
# ModelRegistry.Modality

Input modalities of an architecture and the engine subsystems they switch on.
A set of either is a list in the order of declaration without repetitions, so
equal sets are equal lists.
-/

namespace ModelRegistry

/-- A kind of input that an architecture consumes. -/
inductive Modality where
  /-- Plain token input. -/
  | text
  /-- Interleaved text and image input. -/
  | visionLanguage
  /-- Audio input. -/
  | audio
  /-- Video frames, processed as sequences of images. -/
  | video
  /-- Pooling to an embedding instead of tokens. -/
  | embedding
  deriving DecidableEq, Repr

namespace Modality

/-- All modalities, in the order in which sets list them. -/
def all : List Modality := [.text, .visionLanguage, .audio, .video, .embedding]

/-- The tag of a modality. -/
def tag : Modality → String
  | .text => "text"
  | .visionLanguage => "vision-language"
  | .audio => "audio"
  | .video => "video"
  | .embedding => "embedding"

/-- The modality with exactly this tag. -/
def ofTag? (s : String) : Option Modality := all.find? (·.tag == s)

/-- A tag as people write it, in the spelling that tags have: lower case, and hyphens for
underscores. -/
def normalizeTag (s : String) : String :=
  s.map fun c => if c = '_' then '-' else c.toLower

/-- A tag that names no modality, in the spelling that tags have. -/
structure UnknownTag where
  tag : String
  deriving DecidableEq, Repr

/-- The text of the error. -/
def UnknownTag.message (e : UnknownTag) : String := "unknown modality tag: " ++ e.tag

/-- Reads a tag in any case, with hyphens or underscores, or one of the short names. -/
def parse (s : String) : Except UnknownTag Modality :=
  match normalizeTag s with
  | "text" => .ok .text
  | "vision-language" | "vl" | "vision" => .ok .visionLanguage
  | "audio" => .ok .audio
  | "video" => .ok .video
  | "embedding" | "pooling" => .ok .embedding
  | other => .error ⟨other⟩

/-- The set of some modalities. -/
def set (tags : List Modality) : List Modality := all.filter tags.contains

end Modality

/-- An engine subsystem that is started on demand. -/
inductive Subsystem where
  | imageProcessor | videoProcessor | audioProcessor | poolingHead
  deriving DecidableEq, Repr

namespace Subsystem

/-- All subsystems, in the order in which sets list them. -/
def all : List Subsystem := [.imageProcessor, .videoProcessor, .audioProcessor, .poolingHead]

/-- The name of a subsystem. -/
def name : Subsystem → String
  | .imageProcessor => "image_processor"
  | .videoProcessor => "video_processor"
  | .audioProcessor => "audio_processor"
  | .poolingHead => "pooling_head"

/-- Whether a modality needs the subsystem. Video frames go through the image processor
too. -/
def neededBy : Subsystem → Modality → Bool
  | .imageProcessor, .visionLanguage | .imageProcessor, .video => true
  | .videoProcessor, .video => true
  | .audioProcessor, .audio => true
  | .poolingHead, .embedding => true
  | _, _ => false

/-- The subsystems that a model with these modalities needs. -/
def required (tags : List Modality) : List Subsystem :=
  all.filter fun subsystem => tags.any subsystem.neededBy

end Subsystem

end ModelRegistry
