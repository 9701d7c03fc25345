import StyleLift.Component.Name
import StyleLift.Run.Fault
import StyleLift.Text.Identifier

/-! # Framework components

The source of an empty component with given styles. For every framework the text is an opening, the
styles as they are, and a closing; both depend on the component's name alone.
-/
namespace StyleLift

inductive Framework
  | react
  | vue
  | svelte
  | angular
deriving DecidableEq

namespace Framework

def name : Framework → Text
  | .react => "react"
  | .vue => "vue"
  | .svelte => "svelte"
  | .angular => "angular"

def all : List Framework := [.react, .vue, .svelte, .angular]

def ofName? (name : Text) : Option Framework := all.find? (·.name == name)

/-- Lines with a newline between them, each line given in parts. -/
def lines (parts : List (List Text)) : Text :=
  Text.joinWith [.char '\n'] (parts.map List.flatten)

/-- What stands before the styles. -/
def opening (f : Framework) (name : Text) : Text :=
  let inMarkup := Component.kebab name
  match f with
  | .react => lines [
      [],
      ["import React from 'react';"],
      ["import styled from 'styled-components';"],
      [],
      ["const Styled", name, " = styled.div`"],
      ["  "]]
  | .vue => lines [
      [],
      ["<template>"],
      ["  <div class=\"", inMarkup, "\">"],
      ["    <!-- Add your content here -->"],
      ["  </div>"],
      ["</template>"],
      [],
      ["<script>"],
      ["export default \x7b"],
      ["  name: '", name, "',"],
      ["\x7d;"],
      ["</script>"],
      [],
      ["<style scoped>"],
      [".", inMarkup, " \x7b"],
      ["  "]]
  | .svelte => lines [
      [],
      ["<!-- ", name, ".svelte -->"],
      ["<div class=\"", inMarkup, "\">"],
      ["  <!-- Add your content here -->"],
      ["</div>"],
      [],
      ["<style>"],
      ["  .", inMarkup, " \x7b"],
      ["    "]]
  | .angular => lines [
      [],
      ["import \x7b Component \x7d from '@angular/core';"],
      [],
      ["@Component(\x7b"],
      ["  selector: 'app-", inMarkup, "',"],
      ["  template: `"],
      ["    <div class=\"", inMarkup, "\">"],
      ["      <!-- Add your content here -->"],
      ["    </div>"],
      ["  `,"],
      ["  styles: [`"],
      ["    .", inMarkup, " \x7b"],
      ["      "]]

/-- What stands behind the styles. -/
def closing (f : Framework) (name : Text) : Text :=
  match f with
  | .react => lines [
      [],
      ["`;"],
      [],
      ["export const ", name, " = () => \x7b"],
      ["  return ("],
      ["    <Styled", name, ">"],
      ["      \x7b/* Add your content here */\x7d"],
      ["    </Styled", name, ">"],
      ["  );"],
      ["\x7d;"],
      []]
  | .vue => lines [
      [],
      ["\x7d"],
      ["</style>"],
      []]
  | .svelte => lines [
      [],
      ["  \x7d"],
      ["</style>"],
      []]
  | .angular => lines [
      [],
      ["    \x7d"],
      ["  `],"],
      ["\x7d)"],
      ["export class ", name, "Component \x7b\x7d"],
      []]

def component (f : Framework) (name styles : Text) : Text :=
  f.opening name ++ styles ++ f.closing name

end Framework

/-- The component for a framework given by name; the framework is looked at before the name. -/
def frameworkComponent (styles target name : Text) : Except Fault Text :=
  match Framework.ofName? target with
  | none => .error (.unsupportedTarget (Text.ofString "Unsupported framework: " ++ target))
  | some f =>
    if Text.isIdentifier name then .ok (f.component name styles)
    else .error (.invalidArgument (Text.ofString "Invalid component name: " ++ name.quoted))

end StyleLift
