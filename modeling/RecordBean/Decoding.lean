import RecordBean.Catalog
import RecordBean.Document.Shape
import RecordBean.Settings

/-! # Decoding catalogs and settings

Which fields the documents have, under which names, and what stands for a field left out.
-/

namespace RecordBean
open RecordBean.Document

def readTexts : Reader (List String) := readList readText

def Kind.read : Reader Kind := readVariant (Kind.all.map (·.label)) Kind.ofLabel?

def Visibility.read : Reader Visibility :=
  readVariant (Visibility.all.map (·.label)) Visibility.ofLabel?

def Marker.shape : Shape Marker where
  name := "Marker"
  rules := [
    .of "annotations" .defaulted readTexts fun v m => { m with annotations := v },
    .of "interfaces" .defaulted readTexts fun v m => { m with interfaces := v }]
  initial := Marker.plain

def Component.shape : Shape Component where
  name := "Component"
  rules := [
    .of "name" .required readText fun v c => { c with name := v },
    .of "type" .required readText fun v c => { c with type := v }]
  initial := ⟨"", ""⟩

def HostType.shape : Shape HostType where
  name := "HostType"
  rules := [
    .of "name" .required readText fun v h => { h with name := v },
    .of "kind" .required Kind.read fun v h => { h with kind := v },
    .of "modifiers" .defaulted readTexts fun v h => { h with modifiers := v },
    .of "package" .defaulted (readOption readText) fun v h => { h with package := v },
    .of "beanerate" .defaulted (readOption Marker.shape.read) fun v h => { h with marker := v },
    .of "components" .defaulted (readList Component.shape.read)
      fun v h => { h with components := v }]
  initial := ⟨"", .record, [], none, none, []⟩

def readHostTypes : Reader (List HostType) := readList HostType.shape.read

def Catalog.shape : Shape (List HostType) where
  name := "CatalogFile"
  rules := [.of "types" .defaulted readHostTypes fun v _ => v]
  initial := []

def Field.shape : Shape Field where
  name := "FieldSchema"
  rules := [
    .of "name" .required readText fun v f => { f with name := v },
    .of "declared_type" .required readText fun v f => { f with declaredType := v },
    .of "is_nested" .required readBoolean fun v f => { f with isNested := v }]
  initial := ⟨"", "", false⟩

def Schema.shape : Shape Schema where
  name := "RecordSchema"
  rules := [
    .of "qualified_name" .required readText fun v s => { s with qualifiedName := v },
    .of "simple_name" .required readText fun v s => { s with simpleName := v },
    .of "package_name" .nullable (readOption readText) fun v s => { s with packageName := v },
    .of "visibility" .required Visibility.read fun v s => { s with visibility := v },
    .of "fields" .required (readList Field.shape.read) fun v s => { s with fields := v },
    .of "extra_annotations" .defaulted readTexts fun v s => { s with extraAnnotations := v },
    .of "extra_interfaces" .defaulted readTexts fun v s => { s with extraInterfaces := v }]
  initial := ⟨"", "", none, .packagePrivate, [], [], []⟩

def Settings.shape : Shape Settings where
  name := "GeneratorConfig"
  rules := [
    .of "output_dir" .defaulted readPath fun v s => { s with outputDir := v },
    .of "default_package" .defaulted (readOption readText)
      fun v s => { s with defaultPackage := v },
    .of "parallel" .defaulted readBoolean fun v s => { s with parallel := v },
    .of "log_level" .defaulted readText fun v s => { s with logLevel := v },
    .of "header" .defaulted readText fun v s => { s with header := v }]
  initial := Settings.default

end RecordBean
