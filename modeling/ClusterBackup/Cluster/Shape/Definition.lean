import ClusterBackup.Cluster.Shape.Object

/-! The shape of the definition of a kind of resources. -/

set_option autoImplicit false

namespace ClusterBackup.Cluster.Shape

open Json Json.Shape

def definitionNames : Shape :=
  part "CustomResourceDefinitionNames"
    [ opt "categories" (.many .text), req "kind" .text, opt "listKind" .text, req "plural" .text,
      opt "shortNames" (.many .text), opt "singular" .text ]

def conversion : Shape :=
  part "CustomResourceConversion"
    [ req "strategy" .text,
      opt "webhook" (part "WebhookConversion"
        [ opt "clientConfig" (part "WebhookClientConfig"
            [ opt "caBundle" .bytes,
              opt "service" (part "ServiceReference"
                [ req "name" .text, req "namespace" .text, opt "path" .text,
                  opt "port" (.whole signed32) ]),
              opt "url" .text ]),
          req "conversionReviewVersions" (.many .text) ]) ]

def column : Shape :=
  part "CustomResourceColumnDefinition"
    [ opt "description" .text, opt "format" .text, req "jsonPath" .text, req "name" .text,
      opt "priority" (.whole signed32), req "type" .text ]

/-- A version of the resources. What its schema says is not looked into. -/
def definitionVersion : Shape :=
  part "CustomResourceDefinitionVersion"
    [ opt "additionalPrinterColumns" (.many column), opt "deprecated" .flag,
      opt "deprecationWarning" .text, req "name" .text,
      opt "schema" (part "CustomResourceValidation"
        [opt "openAPIV3Schema" (part "JSONSchemaProps" [])]),
      opt "selectableFields" (.many (part "SelectableField" [req "jsonPath" .text])),
      req "served" .flag, req "storage" .flag,
      opt "subresources" (part "CustomResourceSubresources"
        [ opt "scale" (part "CustomResourceSubresourceScale"
            [ opt "labelSelectorPath" .text, req "specReplicasPath" .text,
              req "statusReplicasPath" .text ]),
          opt "status" .anything ]) ]

def definitionSpec : Shape :=
  part "CustomResourceDefinitionSpec"
    [ opt "conversion" conversion, req "group" .text, req "names" definitionNames,
      opt "preserveUnknownFields" .flag, req "scope" .text,
      req "versions" (.many definitionVersion) ]

def definitionStatus : Shape :=
  part "CustomResourceDefinitionStatus"
    [ opt "acceptedNames" definitionNames,
      opt "conditions" (.many (condition "CustomResourceDefinitionCondition"
        ["lastTransitionTime"])),
      opt "storedVersions" (.many .text) ]

def definition : Shape :=
  identified "apiextensions.k8s.io/v1" "CustomResourceDefinition"
    [req "spec" definitionSpec, opt "status" definitionStatus]

end ClusterBackup.Cluster.Shape
