/-
Reports as text.

The text of a report lists the classes, the declared dependencies and the
skipped entries, one a line, under a line with their number.  Inside double
quotes a quote and a backslash are escaped, and characters that leave no visible
mark are written by name or by number.
-/
import JarAtlas.Report
import JarAtlas.Text.CharacterClass
import JarAtlas.Text.Digits

namespace JarAtlas
namespace Quoted

def character (c : Char) : String :=
  if c = '"' then "\\\""
  else if c = '\\' then "\\\\"
  else if c = '\t' then "\\t"
  else if c = '\r' then "\\r"
  else if c = '\n' then "\\n"
  else if c = '\x00' then "\\0"
  else if isPrintable c then String.singleton c
  else "\\u\x7b" ++ hexText c.toNat ++ "\x7d"

def text (content : String) : String :=
  "\"" ++ String.join (content.toList.map character) ++ "\""

def list (contents : List String) : String :=
  "[" ++ ", ".intercalate (contents.map text) ++ "]"

end Quoted

def ClassRecord.line (record : ClassRecord) : String :=
  "- " ++ record.name ++ " [" ++ record.kind.word ++ "]" ++
    (if record.superclass = "" then "" else " extends " ++ record.superclass) ++
    (match record.role.routes? with
      | some routes => " routes " ++ routes.basePath ++ " " ++ Quoted.list routes.endpoints
      | none => "") ++
    (if record.nestedClasses.isEmpty then "" else " nested " ++ Quoted.list record.nestedClasses)

def DeclaredDependency.line (dependency : DeclaredDependency) : String :=
  "- " ++ dependency.groupId ++ ":" ++ dependency.artifactId ++ ":" ++ dependency.version ++
    (if dependency.scope = "" then "" else " (" ++ dependency.scope ++ ")")

def SkippedEntry.line (skipped : SkippedEntry) : String :=
  "- " ++ skipped.entry ++ ": " ++ skipped.reason

namespace Report

/-- The lines of a report.  Skipped entries are only counted when there are
any. -/
def lines (report : Report) : List String :=
  ["archive: " ++ report.archive,
    "namespace: " ++ report.namespaceName,
    "project_id: " ++ report.projectId,
    "classes: " ++ decimalText report.model.classNames.length] ++
  report.model.classes.map ClassRecord.line ++
  ["external_dependencies: " ++ decimalText report.model.externalDependencies.length] ++
  report.model.externalDependencies.map DeclaredDependency.line ++
  (if report.skipped.isEmpty then []
    else ("skipped: " ++ decimalText report.skipped.length) :: report.skipped.map SkippedEntry.line)

def text (report : Report) : String :=
  String.join (report.lines.map (· ++ "\n"))

end Report
end JarAtlas
