import FrameworkUpgrade.Codemod.Catalog

/-!
# `FrameworkUpgrade.Codemod.Builtin`: the shipped codemods
-/

set_option autoImplicit false

namespace FrameworkUpgrade

namespace Catalog

/-- Every shipped codemod, from the oldest to the newest. -/
def builtinEntries : List CodemodEntry := [
  ⟨"url-to-withrouter",
    "Transform the deprecated automatically injected url property on top level "
      ++ "pages to using withRouter",
    "6.0.0"⟩,
  ⟨"withamp-to-config",
    "Transforms the withAmp HOC into Next.js 9 page configuration",
    "8.0.0"⟩,
  ⟨"name-default-component",
    "Transforms anonymous components into named components to make sure they "
      ++ "work with Fast Refresh",
    "9.5.0"⟩,
  ⟨"add-missing-react-import",
    "Transforms files that do not import `React` to include the import in order "
      ++ "for the new React JSX transform",
    "10.0.0"⟩,
  ⟨"cra-to-next",
    "Automatically migrates a Create React App project to Next.js (experimental)",
    "11.0.0"⟩,
  ⟨"new-link",
    "Ensures your <Link> usage is backwards compatible",
    "13.0.0"⟩,
  ⟨"next-image-to-legacy-image",
    "Safely migrate Next.js 10, 11, 12 applications importing `next/image` to "
      ++ "the renamed `next/legacy/image` import in Next.js 13",
    "13.0.0"⟩,
  ⟨"next-image-experimental",
    "Dangerously migrates from `next/legacy/image` to the new `next/image` by "
      ++ "adding inline styles and removing unused props (experimental)",
    "13.0.0"⟩,
  ⟨"built-in-next-font",
    "Uninstall `@next/font` and transform imports to `next/font`",
    "13.2.0"⟩,
  ⟨"metadata-to-viewport-export",
    "Migrates certain viewport related metadata from the `metadata` export to a "
      ++ "new `viewport` export",
    "14.0.0"⟩,
  ⟨"next-og-import",
    "Transforms imports from `next/server` to `next/og` for usage of Dynamic OG "
      ++ "Image Generation",
    "14.0.0"⟩,
  ⟨"next-request-geo-ip",
    "Install `@vercel/functions` to replace `geo` and `ip` properties on "
      ++ "`NextRequest`",
    "15.0.0-canary.153"⟩,
  ⟨"next-async-request-api",
    "Transforms usage of Next.js async Request APIs",
    "15.0.0-canary.171"⟩,
  ⟨"app-dir-runtime-config-experimental-edge",
    "Transform App Router Route Segment Config `runtime` value from "
      ++ "`experimental-edge` to `edge`",
    "15.0.0-canary.179"⟩
]

/-- The shipped catalog. -/
def builtin : Except CatalogFault Catalog :=
  ofEntries builtinEntries

end Catalog

end FrameworkUpgrade
