import Signage.Template.Family
import Signage.Template.Rendering

/-!
The built-in templates. They are put together from a few groups of lines; families differ in the
root element, in the attributes they understand, and in the groups they have.
-/
namespace Signage.Template

/-- What tells the built-in templates apart. -/
structure Features where
  /-- The tag that opens the document. -/
  root : String
  /-- Whether devices subscribe to tasks and reports. -/
  subscriptions : Bool
  /-- The colour of the screen behind all regions, as an attribute. -/
  screenColour : String
  /-- How media are fitted into regions, as an attribute. -/
  fitting : String
  /-- Whether the screen is turned off by schedule. -/
  standby : Bool
  /-- Whether there are places for exclusive and prefetch markup. -/
  prefetch : Bool

namespace Features

/-- The root element of most families. -/
def languageRoot : String :=
  "<smil xmlns=\"http://www.w3.org/ns/SMIL\" version=\"3.0\" baseProfile=\"Language\">"

/-- The root element of the families with extensions of their own. -/
def extendedRoot : String :=
  "<smil xmlns=\"http://www.w3.org/ns/SMIL\" " ++
    "xmlns:iadea=\"http://schemas.iadea.com/smil/extensions\" " ++
    "version=\"3.0\" baseProfile=\"Language\">"

/-- A black screen behind all regions. -/
def black : String := " backgroundColor=\"black\""

/-- Media fill a region as far as their proportions allow. -/
def meetBest : String := " fit=\"meetBest\""

/-- The features of the template of a family. -/
def ofFamily : Family → Features
  | .garlic => ⟨languageRoot, true, black, meetBest, true, true⟩
  | .xmp => ⟨extendedRoot, true, black, "", true, true⟩
  | .xmpLegacy => ⟨"<smil>", false, "", "", false, false⟩
  | .ids => ⟨languageRoot, false, black, "", false, true⟩
  | .qbic => ⟨languageRoot, true, "", "", false, true⟩
  | .generic => ⟨languageRoot, false, "", "", false, false⟩

end Features

/-- The lines in a list if the condition holds. -/
def linesIf (condition : Bool) (lines : List String) : List String :=
  if condition then lines else []

def titleLines : List String :=
  ["\t\t<meta http-equiv=\"Refresh\" content=\"\x7b\x7bmeta.refresh\x7d\x7d\"/>",
    "\t\t<title>\x7b\x7bmeta.title\x7d\x7d</title>"]

def subscriptionLines : List String :=
  ["\t\t<metadata>",
    "\t\t\t<x-server xmlns=\"http://schemas.adfreeze.com/smil/extensions\">",
    "\t\t\t\t<subscriptionList>",
    "\x7b\x7b#subscriptions\x7d\x7d\t\t\t\t\t<subscription>",
    "\t\t\t\t\t\t<type>\x7b\x7btype\x7d\x7d</type>",
    "\t\t\t\t\t\t<action>\x7b\x7baction\x7d\x7d</action>",
    "\t\t\t\t\t\t<method>\x7b\x7bmethod\x7d\x7d</method>",
    "\t\t\t\t\t</subscription>",
    "\x7b\x7b/subscriptions\x7d\x7d\t\t\t\t</subscriptionList>",
    "\t\t\t</x-server>",
    "\t\t</metadata>"]

/-- The screen and its regions. -/
def layoutLines (features : Features) : List String :=
  ["\t\t<layout>",
    "\t\t\t<root-layout width=\"\x7b\x7blayout.root_width\x7d\x7d\" " ++
      "height=\"\x7b\x7blayout.root_height\x7d\x7d\"" ++ features.screenColour ++ "/>",
    "\x7b\x7b#layout\x7d\x7d\t\t\t<region regionName=\"\x7b\x7bregion_name\x7d\x7d\" " ++
      "left=\"\x7b\x7bleft\x7d\x7d\" top=\"\x7b\x7btop\x7d\x7d\" " ++
      "width=\"\x7b\x7bwidth\x7d\x7d\" height=\"\x7b\x7bheight\x7d\x7d\" " ++
      "z-index=\"\x7b\x7bz_index\x7d\x7d\" " ++
      "backgroundColor=\"\x7b\x7bbackground_color\x7d\x7d\"" ++ features.fitting ++ "/>",
    "\x7b\x7b/layout\x7d\x7d\t\t</layout>"]

/-- The first line of the exclusive part; the spans of standby come before it. -/
def exclusiveLines (standby : Bool) : List String :=
  if standby then
    ["\x7b\x7b#screen_times\x7d\x7d\t\t\t<ref src=\"adapi:blankScreen\" " ++
        "begin=\"\x7b\x7bbegin\x7d\x7d\" end=\"\x7b\x7bend\x7d\x7d\"/>",
      "\x7b\x7b/screen_times\x7d\x7d\t\t\t<excl>"]
  else ["\t\t\t<excl>"]

/-- Items that exclusive markup can interrupt, and the media fetched ahead. -/
def interruptibleLines : List String :=
  ["\t\t\t\t<priorityClass higher=\"stop\" lower=\"defer\" peer=\"stop\">",
    "\x7b\x7bplaylist.exclusive\x7d\x7d\t\t\t\t</priorityClass>",
    "\t\t\t\t<priorityClass>",
    "\t\t\t\t\t<par>",
    "\x7b\x7bplaylist.items\x7d\x7d\t\t\t\t\t</par>",
    "\t\t\t\t</priorityClass>",
    "\t\t\t</excl>",
    "\t\t\t<seq id=\"prefetch\" repeatCount=\"indefinite\">",
    "\t\t\t\t<seq dur=\"\x7b\x7bplaylist.prefetch_refresh_time\x7d\x7d\">",
    "\x7b\x7bplaylist.prefetch\x7d\x7d\t\t\t\t</seq>",
    "\t\t\t</seq>",
    "\t\t</par>"]

/-- What is played. -/
def playbackLines (features : Features) : List String :=
  if features.prefetch then exclusiveLines features.standby ++ interruptibleLines
  else ["\x7b\x7bplaylist.items\x7d\x7d\t\t</par>"]

/-- The lines of a template. -/
def lines (features : Features) : List String :=
  ["<?xml version=\"1.0\" encoding=\"UTF-8\"?>", features.root, "\t<head>"] ++ titleLines ++
    linesIf features.subscriptions subscriptionLines ++ layoutLines features ++
    ["\t</head>", "\t<body>", "\t\t<par>"] ++ playbackLines features ++
    ["\t</body>", "</smil>"]

/-- The templates in use, by family. -/
abbrev Sources := Family → List Char

def builtin : Sources := fun family =>
  (lines (.ofFamily family)).flatMap fun line => line.toList ++ ['\n']

/-- The templates with another one for a family. -/
def Sources.override (sources : Sources) (family : Family) (source : List Char) : Sources :=
  fun other => if other = family then source else sources other

/-- The document that the named template makes of the data. -/
def Sources.render (sources : Sources) (name : String) (table : Section.Table) :
    Except Error (List Char) :=
  match Family.ofName? name with
  | some family => renderSource (sources family) table
  | none => .error (.render s!"Unknown template: {name}")

end Signage.Template
