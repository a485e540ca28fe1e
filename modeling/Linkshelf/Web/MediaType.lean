/-! Media types: which of them name JSON, and the type of a file by its name. -/
namespace Linkshelf.MediaType

def isTokenChar (c : Char) : Bool :=
  c.isAlphanum || ['!', '#', '$', '%', '&', '+', '-', '.', '^', '_', (Char.ofNat 0x60)].contains c

/-- The parts of a media type, in lower case. The suffix follows the last plus sign. -/
structure Parts where
  type : String
  subtype : String
  suffix : Option String
  deriving DecidableEq, Repr

/-- Whether what stands in quotes after an opening quote ends in one, with blanks behind it. -/
def quotedRest? (isFirst : Bool) : List Char → Option (List Char)
  | [] => none
  | c :: s =>
    if c = '"' && !isFirst then
      match s.dropWhile (· = ' ') with
      | [] => some []
      | ';' :: rest => some rest
      | _ => none
    else if 31 < c.toNat && c.toNat < 127 then quotedRest? false s
    else none

/-- The text after the value of a parameter. -/
def valueRest? (s : List Char) : Option (List Char) :=
  match s with
  | '"' :: t => quotedRest? true t
  | _ =>
    match s.takeWhile isTokenChar, s.dropWhile isTokenChar with
    | _, [] => some []
    | _ :: _, ';' :: rest => some rest
    | _, _ => none

/-- Whether a text is parameters, each a name and a value, parted by semicolons. -/
def areParameters : Nat → List Char → Bool
  | 0, _ => false
  | fuel + 1, s =>
    match s.dropWhile (· = ' ') with
    | [] => true
    | s =>
      match s.takeWhile isTokenChar, s.dropWhile isTokenChar with
      | _ :: _, '=' :: value =>
        match valueRest? value with
        | some rest => areParameters fuel rest
        | none => false
      | _, _ => false

/-- Cuts at the last plus sign that does not come first. -/
def splitSuffix (subtype : List Char) : List Char × Option (List Char) :=
  match subtype.reverse.span (· != '+') with
  | (suffix, _ :: (c :: cs)) => ((c :: cs).reverse, some suffix.reverse)
  | _ => (subtype, none)

def parts? (s : String) : Option Parts :=
  let s := s.toList.map Char.toLower
  match s.takeWhile isTokenChar, s.dropWhile isTokenChar with
  | _ :: _, '/' :: t =>
    let subtype := t.takeWhile isTokenChar
    let isWhole := match t.dropWhile isTokenChar with
      | [] => true
      | ';' :: parameters => !subtype.isEmpty && areParameters (parameters.length + 1) parameters
      | _ => false
    if isWhole then
      let (subtype, suffix) := splitSuffix subtype
      some ⟨.ofList (s.takeWhile isTokenChar), .ofList subtype, suffix.map .ofList⟩
    else none
  | _, _ => none

/-- JSON itself, or a type built on it. -/
def isJson (s : String) : Bool :=
  match parts? s with
  | some p => p.type = "application" && (p.subtype = "json" || p.suffix = some "json")
  | none => false

def json : String := "application/json"

def plainText : String := "text/plain; charset=utf-8"

/-- The type of files whose name tells nothing. -/
def bytes : String := "application/octet-stream"

/-- The types that extensions stand for. -/
def byExtension : List (String × String) :=
  [("7z", "application/x-7z-compressed"), ("aac", "audio/aac"), ("apng", "image/apng"),
    ("atom", "application/atom+xml"), ("avi", "video/x-msvideo"), ("avif", "image/avif"),
    ("bin", "application/octet-stream"), ("bmp", "image/bmp"), ("bz", "application/x-bzip"),
    ("bz2", "application/x-bzip2"), ("c", "text/plain"), ("conf", "text/plain"),
    ("css", "text/css"), ("csv", "text/csv"), ("doc", "application/msword"),
    ("docx", "application/vnd.openxmlformats-officedocument.wordprocessingml.document"),
    ("eot", "application/vnd.ms-fontobject"), ("epub", "application/epub+zip"),
    ("exe", "application/octet-stream"), ("flac", "audio/flac"), ("gif", "image/gif"),
    ("gz", "application/gzip"), ("h", "text/plain"), ("htm", "text/html"),
    ("html", "text/html"), ("ico", "image/x-icon"), ("ics", "text/calendar"),
    ("ini", "text/plain"), ("jar", "application/java-archive"), ("jpe", "image/jpeg"),
    ("jpeg", "image/jpeg"), ("jpg", "image/jpeg"), ("js", "text/javascript"),
    ("json", "application/json"), ("jsonld", "application/ld+json"), ("jsx", "text/jsx"),
    ("log", "text/plain"), ("m4a", "audio/m4a"), ("m4v", "video/x-m4v"),
    ("map", "application/json"), ("markdown", "text/markdown"), ("md", "text/markdown"),
    ("mid", "audio/mid"), ("mjs", "text/javascript"), ("mov", "video/quicktime"),
    ("mp3", "audio/mpeg"), ("mp4", "video/mp4"), ("mpeg", "video/mpeg"), ("mpg", "video/mpeg"),
    ("odt", "application/vnd.oasis.opendocument.text"), ("oga", "audio/ogg"),
    ("ogg", "audio/ogg"), ("ogv", "video/ogg"), ("opus", "audio/opus"), ("otf", "font/otf"),
    ("pdf", "application/pdf"), ("php", "application/x-httpd-php"), ("png", "image/png"),
    ("ppt", "application/vnd.ms-powerpoint"), ("ps", "application/postscript"),
    ("py", "text/plain"), ("rar", "application/x-rar-compressed"),
    ("rss", "application/rss+xml"), ("rtf", "application/rtf"), ("sh", "application/x-sh"),
    ("svg", "image/svg+xml"), ("swf", "application/x-shockwave-flash"),
    ("tar", "application/x-tar"), ("tif", "image/tiff"), ("tiff", "image/tiff"),
    ("toml", "text/x-toml"), ("ts", "video/vnd.dlna.mpeg-tts"),
    ("tsv", "text/tab-separated-values"),
    ("ttf", "font/ttf"), ("txt", "text/plain"), ("vcf", "text/x-vcard"), ("vtt", "text/vtt"),
    ("wasm", "application/wasm"), ("wav", "audio/wav"), ("weba", "audio/webm"),
    ("webm", "video/webm"), ("webmanifest", "application/manifest+json"), ("webp", "image/webp"),
    ("woff", "font/woff"), ("woff2", "font/woff2"), ("xht", "application/xhtml+xml"),
    ("xhtml", "application/xhtml+xml"), ("xls", "application/vnd.ms-excel"),
    ("xlsx", "application/vnd.openxmlformats-officedocument.spreadsheetml.sheet"),
    ("xml", "text/xml"), ("xsl", "text/xml"), ("yaml", "text/x-yaml"), ("yml", "text/x-yaml"),
    ("zip", "application/zip")]

/-- What follows the last point of a name; a point at the start is none. -/
def extension? (name : String) : Option String :=
  match name.toList.reverse.span (· != '.') with
  | (after, _ :: _ :: _) => some (.ofList (after.reverse.map Char.toLower))
  | _ => none

def ofFileName (name : String) : String :=
  ((extension? name).bind fun e => byExtension.lookup e).getD bytes

end Linkshelf.MediaType
