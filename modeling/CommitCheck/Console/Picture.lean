import CommitCheck.Console.Picture.Plain
import CommitCheck.Text.Blank
import CommitCheck.Text.Case
import CommitCheck.Text.Width

/-!
# Pictures by name

A name between colons stands for a picture.  Names are read in any case, and an
ending asks for one of the two forms of the picture.  What is between two colons
and is no name stays, and the second colon does not start another name.

Two kinds of pictures are made by rule.

* A land has a code of two letters, and its flag is written with the signs of the
  two.  The name of the land alone stands for the flag, and so does the name after
  `flag_for_`.
* Some pictures of people come in five tones of skin.  An ending of the name asks
  for the tone.  Its sign comes after the first character of the picture, and takes
  the place of a selector there.
-/

namespace CommitCheck.Console

/-! ## Flags -/

/-- The names of lands, each with its code after it. -/
def landLines : List String := [
  "afghanistan AF albania AL algeria DZ american_samoa AS andorra AD angola AO anguilla AI",
  "antarctica AQ antigua_&_barbuda AG argentina AR armenia AM aruba AW ascension_island AC",
  "australia AU austria AT azerbaijan AZ bahamas BS bahrain BH bangladesh BD barbados BB",
  "belarus BY belgium BE belize BZ benin BJ bermuda BM bhutan BT bolivia BO",
  "bosnia_&_herzegovina BA botswana BW bouvet_island BV brazil BR",
  "british_indian_ocean_territory IO british_virgin_islands VG brunei BN bulgaria BG",
  "burkina_faso BF burundi BI cambodia KH cameroon CM canada CA canary_islands IC",
  "cape_verde CV caribbean_netherlands BQ cayman_islands KY central_african_republic CF",
  "ceuta_&_melilla EA chad TD chile CL china CN christmas_island CX clipperton_island CP",
  "colombia CO comoros KM cook_islands CK costa_rica CR croatia HR cuba CU curaçao CW",
  "cyprus CY côte_d’ivoire CI denmark DK diego_garcia DG djibouti DJ dominica DM",
  "dominican_republic DO ecuador EC egypt EG el_salvador SV equatorial_guinea GQ eritrea ER",
  "estonia EE ethiopia ET european_union EU falkland_islands FK faroe_islands FO fiji FJ",
  "finland FI france FR french_guiana GF french_polynesia PF french_southern_territories TF",
  "gabon GA gambia GM georgia GE germany DE ghana GH gibraltar GI greece GR greenland GL",
  "grenada GD guadeloupe GP guam GU guatemala GT guernsey GG guinea GN guyana GY haiti HT",
  "heard_&_mcdonald_islands HM honduras HN hungary HU iceland IS india IN indonesia ID",
  "iran IR iraq IQ ireland IE isle_of_man IM israel IL italy IT jamaica JM jersey JE",
  "jordan JO kazakhstan KZ kenya KE kiribati KI kosovo XK kuwait KW kyrgyzstan KG laos LA",
  "latvia LV lebanon LB lesotho LS liberia LR libya LY liechtenstein LI lithuania LT",
  "luxembourg LU macedonia MK madagascar MG malawi MW malaysia MY maldives MV mali ML",
  "malta MT marshall_islands MH martinique MQ mauritania MR mauritius MU mayotte YT",
  "mexico MX micronesia FM moldova MD monaco MC mongolia MN montenegro ME montserrat MS",
  "morocco MA mozambique MZ namibia NA nauru NR nepal NP netherlands NL new_caledonia NC",
  "new_zealand NZ nicaragua NI niger NE nigeria NG niue NU norfolk_island NF north_korea KP",
  "northern_mariana_islands MP norway NO oman OM pakistan PK palau PW",
  "palestinian_territories PS panama PA papua_new_guinea PG paraguay PY peru PE",
  "philippines PH pitcairn_islands PN poland PL portugal PT puerto_rico PR qatar QA",
  "romania RO russia RU rwanda RW réunion RE samoa WS san_marino SM saudi_arabia SA",
  "senegal SN serbia RS seychelles SC sierra_leone SL singapore SG sint_maarten SX",
  "slovakia SK slovenia SI solomon_islands SB somalia SO south_africa ZA",
  "south_georgia_&_south_sandwich_islands GS south_korea KR south_sudan SS spain ES",
  "sri_lanka LK st._barthélemy BL st._helena SH st._kitts_&_nevis KN st._lucia LC",
  "st._martin MF st._pierre_&_miquelon PM st._vincent_&_grenadines VC sudan SD suriname SR",
  "svalbard_&_jan_mayen SJ swaziland SZ sweden SE switzerland CH syria SY",
  "são_tomé_&_príncipe ST taiwan TW tajikistan TJ tanzania TZ thailand TH togo TG",
  "tokelau TK tonga TO trinidad_&_tobago TT tristan_da_cunha TA tunisia TN turkmenistan TM",
  "turks_&_caicos_islands TC tuvalu TV u.s._outlying_islands UM u.s._virgin_islands VI",
  "uganda UG ukraine UA united_arab_emirates AE united_kingdom GB united_states US",
  "uruguay UY uzbekistan UZ vanuatu VU vatican_city VA venezuela VE vietnam VN",
  "wallis_&_futuna WF western_sahara EH yemen YE zambia ZM zimbabwe ZW åland_islands AX"]

/-- The codes of lands by their names. -/
def landCodes : List (Text × Text) := pairsIn landLines

/-- The sign of a letter, of which two make a flag. -/
def flagSign (c : Char) : Char := Char.ofNat (0x1F1E6 + (c.toNat - 'A'.toNat))

/-- The flag that a name stands for. -/
def flag? (name : Text) : Option Text :=
  (landCodes.lookup ((after? "flag_for_" name).getD name)).map (·.map flagSign)

example : ("DK" : Text).map flagSign = "🇩🇰" := by decide +kernel

/-! ## Tones of skin -/

/-- The endings that ask for a tone, with the sign that gives it. -/
def tones : List (Text × Char) := [
  ("_light_skin_tone", '🏻'), ("_medium-light_skin_tone", '🏼'), ("_medium_skin_tone", '🏽'),
  ("_medium-dark_skin_tone", '🏾'), ("_dark_skin_tone", '🏿')]

/-- The lines of the names of the pictures that come in tones. -/
def tonedLines : List String := [
  "adult baby baby_angel backhand_index_pointing_down backhand_index_pointing_left",
  "backhand_index_pointing_right backhand_index_pointing_up bearded_person blond-haired_man",
  "blond-haired_person blond-haired_woman boy breast-feeding bride_with_veil call_me_hand",
  "child clapping_hands construction_worker crossed_fingers detective ear elf fairy",
  "flexed_biceps folded_hands girl guard hand_with_fingers_splayed horse_racing",
  "index_pointing_up left-facing_fist love-you_gesture mage man man_artist man_astronaut",
  "man_biking man_bouncing_ball man_bowing man_cartwheeling man_climbing",
  "man_construction_worker man_cook man_dancing man_detective man_elf man_facepalming",
  "man_factory_worker man_fairy man_farmer man_firefighter man_frowning man_gesturing_no",
  "man_gesturing_ok man_getting_haircut man_getting_massage man_golfing man_guard",
  "man_health_worker man_in_lotus_position man_in_steamy_room man_in_suit_levitating",
  "man_in_tuxedo man_judge man_juggling man_lifting_weights man_mage man_mechanic",
  "man_mountain_biking man_office_worker man_pilot man_playing_handball",
  "man_playing_water_polo man_police_officer man_pouting man_raising_hand man_rowing_boat",
  "man_running man_scientist man_shrugging man_singer man_student man_surfing man_swimming",
  "man_teacher man_technologist man_tipping_hand man_vampire man_walking man_wearing_turban",
  "man_with_chinese_cap mermaid merman merperson middle_finger mrs._claus nail_polish nose",
  "ok_hand old_man old_woman older_adult oncoming_fist open_hands palms_up_together",
  "person_biking person_bouncing_ball person_bowing person_cartwheeling person_climbing",
  "person_facepalming person_frowning person_gesturing_no person_gesturing_ok",
  "person_getting_haircut person_getting_massage person_golfing person_in_bed",
  "person_in_lotus_position person_in_steamy_room person_juggling person_lifting_weights",
  "person_mountain_biking person_playing_handball person_playing_water_polo person_pouting",
  "person_raising_hand person_rowing_boat person_running person_shrugging person_surfing",
  "person_swimming person_taking_bath person_tipping_hand person_walking",
  "person_wearing_turban police_officer pregnant_woman prince princess raised_back_of_hand",
  "raised_fist raised_hand raising_hands right-facing_fist santa_claus selfie",
  "sign_of_the_horns snowboarder thumbs_down thumbs_up vampire victory_hand vulcan_salute",
  "waving_hand woman woman_artist woman_astronaut woman_biking woman_bouncing_ball",
  "woman_bowing woman_cartwheeling woman_climbing woman_construction_worker woman_cook",
  "woman_dancing woman_detective woman_elf woman_facepalming woman_factory_worker",
  "woman_fairy woman_farmer woman_firefighter woman_frowning woman_gesturing_no",
  "woman_gesturing_ok woman_getting_haircut woman_getting_massage woman_golfing woman_guard",
  "woman_health_worker woman_in_lotus_position woman_in_steamy_room woman_judge",
  "woman_juggling woman_lifting_weights woman_mage woman_mechanic woman_mountain_biking",
  "woman_office_worker woman_pilot woman_playing_handball woman_playing_water_polo",
  "woman_police_officer woman_pouting woman_raising_hand woman_rowing_boat woman_running",
  "woman_scientist woman_shrugging woman_singer woman_student woman_surfing woman_swimming",
  "woman_teacher woman_technologist woman_tipping_hand woman_vampire woman_walking",
  "woman_wearing_turban woman_with_headscarf writing_hand"]

/-- The names of the pictures that come in tones. -/
def tonedNames : List Text := wordsIn tonedLines

/-- A picture in a tone. -/
def inTone (tone : Char) : Text → Text
  | [] => []
  | c :: cs => c :: tone :: (if cs.head? == some selector then cs.drop 1 else cs)

/-- The picture that a name with a tone at its end stands for. -/
def toned? (name : Text) : Option Text :=
  match tones.find? fun t => t.1.isSuffixOf name with
  | none => none
  | some (ending, tone) =>
      let name := name.take (name.length - ending.length)
      if tonedNames.contains name then (plainPictures.lookup name).map (inTone tone) else none

example : inTone '🏿' "⛹️\u200d♂️" = "⛹🏿\u200d♂️" := by decide +kernel

/-! ## Names between colons -/

/-- The endings that ask for a form, with the character that gives it. -/
def forms : List (Text × Char) := [("-emoji", '\ufe0f'), ("-text", '\ufe0e')]

/-- The picture that a name in small letters stands for. -/
def pictureOf? (name : Text) : Option Text :=
  match plainPictures.lookup name with
  | some p => some p
  | none => match toned? name with
      | some p => some p
      | none => flag? name

/-- A name and the form that its ending asks for. -/
def splitForm (t : Text) : Text × Text :=
  match forms.find? fun f => f.1.isSuffixOf t with
  | none => (t, [])
  | some (ending, form) => (t.take (t.length - ending.length), [form])

/-- The picture of what stands between two colons, if it is a name. -/
def picture? (t : Text) : Option Text :=
  let (name, form) := splitForm t
  (pictureOf? (smallLetters name)).map (· ++ form)

/-- What stands between a colon and the next one, if no blank comes before it. -/
def named? (t : Text) : Option Text :=
  let name := t.takeWhile fun c => c != ':' && !isBlank c
  if (t.drop name.length).head? == some ':' then some name else none

/-- The text with pictures for names, of which the first characters are skipped. -/
def picturesAfter : Nat → Text → Text
  | _, [] => []
  | skip + 1, _ :: cs => picturesAfter skip cs
  | 0, c :: cs =>
      if c = ':' then
        match named? cs with
        | none => c :: picturesAfter 0 cs
        | some name =>
            (picture? name).getD (':' :: name ++ [':']) ++ picturesAfter (name.length + 1) cs
      else c :: picturesAfter 0 cs
termination_by structural _ t => t

/-- The text with pictures for names. -/
def withPictures (t : Text) : Text := picturesAfter 0 t

example : picturesAfter 0 "a : b c:d" = "a : b c:d" := by decide +kernel

end CommitCheck.Console
