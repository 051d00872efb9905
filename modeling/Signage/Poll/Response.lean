import Signage.Calendar.MailDate
import Signage.Files.Work

/-! Answers to polls: which status, which headers, and which file as the body. -/
namespace Signage.Poll

open Files (FileSystem Opened)

/-- The name of a header, in lower case, and its value. -/
abbrev Headers := List (String × String)

/-- The answer to a poll. -/
inductive Response where
  /-- The device could not be told. -/
  | rejected
  /-- The device is to go on with what it has, whatever that is. -/
  | fallback
  /-- The device has the current file. -/
  | notModified (path : List Char) (file : Opened)
  /-- A file is sent. -/
  | served (path : List Char) (file : Opened)

/-- How long devices may keep an index that they can ask for again. -/
def indexCaching : String := "public, must-revalidate, max-age=864000, pre-check=864000"

/-- How long devices may keep what they have when there is no answer. -/
def fallbackCaching : String := "public, max-age=31536000"

/-- The days after which what a device has is outdated when there is no answer. -/
def fallbackDays : Nat := 365

/-- The headers that describe a file, whether it is sent or not. -/
def fileHeaders (file : Opened) : Headers :=
  [("cache-control", indexCaching),
    ("last-modified", .ofList (Calendar.httpDate file.modified.seconds))]

/-- The headers that describe the body. -/
def bodyHeaders (file : Opened) : Headers :=
  [("content-length", .ofList (Text.numeral file.length)),
    ("content-type", "application/smil+xml"),
    ("content-disposition", "attachment; filename=index.smil")]

namespace Response

def status : Response → Nat
  | rejected => 403
  | fallback => 304
  | notModified _ _ => 304
  | served _ _ => 200

def headers (now : Calendar.Moment) : Response → Headers
  | rejected => []
  | fallback =>
    [("cache-control", fallbackCaching),
      ("expires", .ofList (Calendar.httpDate (now.addDays fallbackDays).seconds))]
  | notModified _ file => fileHeaders file
  | served _ file => fileHeaders file ++ bodyHeaders file

def body : Response → ByteArray
  | served _ file => file.bytes
  | _ => .empty

def path? : Response → Option (List Char)
  | served path _ => some path
  | _ => none

/-- The file that was opened for an answer, and its path. -/
def opened? : Response → Option (List Char × Opened)
  | notModified path file => some (path, file)
  | served path file => some (path, file)
  | _ => none

end Response

/-- Whether a file is not newer than the date of a header, compared in whole seconds. A header
that is no date says nothing. -/
def isCurrent (file : Opened) (since : Option (List Char)) : Bool :=
  match since.bind fun text => Calendar.readMailDate? (Text.trim text) with
  | some since => file.modified.seconds ≤ since
  | none => false

/-- The answer with a file, for a device that has what was current at a date. -/
def answerWith (path : List Char) (file : Opened) (since : Option (List Char)) : Response :=
  if isCurrent file since then .notModified path file else .served path file

def answerFrom (fs : FileSystem) (path : List Char) (since : Option (List Char)) :
    Except Error Response :=
  match fs.view (.ofText path) with
  | .ok file => .ok (answerWith path file since)
  | .error fault => .error fault.toError

end Signage.Poll
