import Curation.Link.Parts

/-!
The media kind that a link's own text gives away: by its last extension, seen through compression
suffixes, or by the type named in an inline data link. Queries and fragments count as part of the
text.
-/
namespace Curation.Link

def imageExtensions : List String :=
  [".avif", ".bmp", ".gif", ".heic", ".heif", ".ico", ".ief", ".jpe", ".jpeg", ".jpg", ".pbm",
    ".pgm", ".png", ".pnm", ".ppm", ".ras", ".rgb", ".svg", ".tif", ".tiff", ".xbm", ".xpm", ".xwd"]

def videoExtensions : List String :=
  [".avi", ".m1v", ".mov", ".movie", ".mp4", ".mpa", ".mpe", ".mpeg", ".mpg", ".qt", ".webm"]

def playlistExtensions : List String := [".m3u", ".m3u8"]

/-- Suffixes that stand for an archive or compressed form. -/
def suffixAlias? : String → Option String
  | ".svgz" => some ".svg.gz"
  | ".tgz" => some ".tar.gz"
  | ".taz" => some ".tar.gz"
  | ".tz" => some ".tar.gz"
  | ".tbz2" => some ".tar.bz2"
  | ".txz" => some ".tar.xz"
  | _ => none

def compressionSuffixes : List String := [".gz", ".Z", ".bz2", ".xz", ".br"]

/-- Splits off the extension of the last segment; leading dots of the segment start none. -/
def splitExtension (text : List Char) : List Char × List Char :=
  let segment := behindLast '/' text
  let name := segment.dropWhile (· = '.')
  if name.contains '.' then
    let extension := behindLast '.' name
    (text.take (text.length - extension.length - 1), '.' :: extension)
  else (text, [])

/-- The scheme before the first colon that no slash precedes, and the text behind it. -/
def splitScheme (text : List Char) : List Char × List Char :=
  let name := text.takeWhile (fun c => c ≠ ':' ∧ c ≠ '/')
  match name, text.dropWhile (fun c => c ≠ ':' ∧ c ≠ '/') with
  | _ :: _, ':' :: rest => (Text.lowerFrom [] name, rest)
  | _, _ => ([], text)

/-- The extension that names the kind, behind an alias and a compression suffix. -/
def kindExtension (text : List Char) : String :=
  let (base, extension) := splitExtension text
  let (base, extension) := match suffixAlias? (String.ofList extension) with
    | some written => splitExtension (base ++ written.toList)
    | none => (base, extension)
  let extension := if compressionSuffixes.contains (String.ofList extension) then
      (splitExtension base).2 else extension
  String.ofList (Text.lowerFrom [] extension)

/-- The type that an inline data link names before its first comma. -/
def inlineType? (text : List Char) : Option String :=
  match partition ',' text with
  | (header, true, _) =>
    let type := (partition ';' header).1
    some (if type.contains '=' || !type.contains '/' then "text/plain" else String.ofList type)
  | _ => none

/-- The media type of a link, as far as the kinds of interest need it. -/
def mediaType? (link : String) : Option String :=
  let (scheme, rest) := splitScheme link.toList
  if String.ofList scheme == "data" then inlineType? rest
  else
    let extension := kindExtension rest
    if imageExtensions.contains extension then some "image"
    else if videoExtensions.contains extension then some "video"
    else if playlistExtensions.contains extension then some "application/vnd.apple.mpegurl"
    else none

def mediaTypeStarts (link start : String) : Bool :=
  match mediaType? link with
  | some type => start.toList.isPrefixOf type.toList
  | none => false

/-- Hosts whose links are images whatever they look like. -/
def imageHosts : List String := ["imagedelivery.net", "imgur.com"]

/-- Whether a link with a scheme and a host shows an image; none when the link is malformed. -/
def isImage? (link : String) : Option Bool := do
  let parts ← parts? link
  return !parts.scheme.isEmpty && !parts.authority.isEmpty
    && (mediaTypeStarts link "image" || imageHosts.contains parts.host)

def isVideo (link : String) : Bool :=
  mediaTypeStarts link "video" || mediaTypeStarts link "application/vnd.apple.mpegurl"

end Curation.Link
