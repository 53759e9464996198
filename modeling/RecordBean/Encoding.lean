import RecordBean.Catalog
import RecordBean.Json
import RecordBean.Schema
import RecordBean.Settings

/-! # Encoding

Host types, schemas and settings as JSON, with every field written.
-/

namespace RecordBean

def Kind.toJson (k : Kind) : Json := .text k.label

def Visibility.toJson (v : Visibility) : Json := .text v.label

def Marker.toJson (m : Marker) : Json := .object [
  ("annotations", .ofTexts m.annotations),
  ("interfaces", .ofTexts m.interfaces)]

def Component.toJson (c : Component) : Json := .object [
  ("name", .text c.name),
  ("type", .text c.type)]

def HostType.toJson (h : HostType) : Json := .object [
  ("name", .text h.name),
  ("kind", h.kind.toJson),
  ("modifiers", .ofTexts h.modifiers),
  ("package", .ofOption .text h.package),
  ("beanerate", .ofOption Marker.toJson h.marker),
  ("components", .ofList Component.toJson h.components)]

def Field.toJson (f : Field) : Json := .object [
  ("name", .text f.name),
  ("declared_type", .text f.declaredType),
  ("is_nested", .boolean f.isNested)]

def Schema.jsonMembers (s : Schema) : List (String × Json) := [
  ("qualified_name", .text s.qualifiedName),
  ("simple_name", .text s.simpleName),
  ("package_name", .ofOption .text s.packageName),
  ("visibility", s.visibility.toJson),
  ("fields", .ofList Field.toJson s.fields),
  ("extra_annotations", .ofTexts s.extraAnnotations),
  ("extra_interfaces", .ofTexts s.extraInterfaces)]

def Schema.toJson (s : Schema) : Json := .object s.jsonMembers

def Settings.toJson (s : Settings) : Json := .object [
  ("output_dir", .text s.outputDir),
  ("default_package", .ofOption .text s.defaultPackage),
  ("parallel", .boolean s.parallel),
  ("log_level", .text s.logLevel),
  ("header", .text s.header)]

end RecordBean
