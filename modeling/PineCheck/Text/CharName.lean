/-!
# Character names

A text literal may name a character by its Unicode name, in braces after a backslash and
`N`. `isCharName` decides which names are known, as of Unicode 14.0.0:

* the names of the Unicode Character Database and their aliases, in any case of the ASCII
  letters (but not the named sequences of several characters);
* `CJK UNIFIED IDEOGRAPH-` and four or five hexadecimal digits, written with digits and
  capital letters, that give a unified ideograph;
* `HANGUL SYLLABLE ` and the short names of a leading consonant, a vowel and a trailing
  consonant, in capital letters, each the longest one that fits.

The names of the first kind are kept in `nameList`: sorted, in lower case with underscores
for spaces, one a line, each line holding how many characters the name shares with the one
before, a bar, and the rest of the name.
-/

namespace PineCheck.Text

/-- The character names and aliases, front coded: see the module comment. -/
def nameList : String := "
0|abacus
1|c_current
2|cordion
4|unt_of
2|k
3|nowledge
2|tivate_arabic_form_shaping
9|symmetric_swapping
2|ute_accent
7|ngle
1|ddressed_to_the_subject
2|hesive_bandage
2|i_shakti
2|lam_alif_lengthener
6|capital_letter_alif
21|ba
22|he
21|chi
21|daali
22|ha
21|e
21|fa
21|ga
22|be
21|ha
21|i
21|jiim
21|kaf
22|ha
22|po
21|laam
21|miim
21|nha
22|un
22|ya
21|o
21|pe
21|qaaf
21|ra
21|sha
22|innyiiyhe
21|tu
21|u
21|va
21|waw
21|ya
22|he
21|zal
7|onsonant_modifier
6|digit_eight
12|five
13|our
12|nine
12|one
12|seven
13|ix
12|three
13|wo
12|zero
6|geminate_consonant_modifier
13|ion_mark
6|hamza
6|initial_exclamation_mark
14|question_mark
6|nasalization_mark
7|ukta
6|small_letter_alif
19|ba
20|he
19|chi
19|daali
20|ha
19|e
19|fa
19|ga
20|be
19|ha
19|i
19|jiim
19|kaf
20|ha
20|po
19|laam
19|miim
19|nha
20|un
20|ya
19|o
19|pe
19|qaaf
19|ra
19|sha
20|innyiiyhe
19|tu
19|u
19|va
19|waw
19|ya
20|he
19|zal
6|vowel_lengthener
2|metos
3|ission_tickets
2|ult
1|egean_check_mark
7|dry_measure_first_subunit
7|liquid_measure_first_subunit
7|measure_second_subunit
15|third_subunit
7|number_eight
19|_hundred
20|thousand
19|y
20|_thousand
14|fifty
19|_thousand
16|ve
18|_hundred
19|thousand
15|orty
19|_thousand
16|ur
18|_hundred
19|thousand
14|nine
18|_hundred
19|thousand
18|ty
20|_thousand
14|one
17|_hundred
18|thousand
14|seven
19|_hundred
20|thousand
19|ty
21|_thousand
15|ix
17|_hundred
18|thousand
17|ty
19|_thousand
14|ten
17|_thousand
15|hirty
20|_thousand
16|ree
19|_hundred
20|thousand
15|wenty
20|_thousand
16|o
17|_hundred
18|thousand
7|weight_base_unit
14|first_subunit
15|ourth_subunit
14|second_subunit
14|third_subunit
8|ord_separator_dot
22|line
2|rial_tramway
1|fghani_sign
1|hom_consonant_sign_medial_la
28|igating_ra
27|ra
5|digit_eight
11|five
12|our
11|nine
11|one
11|seven
12|ix
11|three
12|wo
11|zero
5|letter_a
13|lternate_ba
22|ga
22|ta
12|ba
13|ha
12|ca
13|ha
12|da
13|da
14|ha
13|ha
12|ga
13|ha
12|ha
12|ja
13|ha
12|ka
13|ha
12|la
13|la
12|ma
12|na
13|ga
13|na
13|ya
12|pa
13|ha
12|ra
12|sa
12|ta
13|ha
13|ta
14|ha
5|number_ten
13|wenty
5|sign_killer
10|rulai
10|section
11|mall_section
6|ymbol_vi
5|vowel_sign_a
17|a
17|i
17|m
17|w
16|e
16|i
17|i
16|o
16|u
17|u
1|irplane
8|_arriving
9|departure
1|ktieselskab
1|larm_clock
2|chemical_symbol_for_air
23|lembic
24|kali
28|-2
24|um
23|malgam
23|ntimony_ore
23|qua_regia
32|-2
27|vitae
32|-2
26|fortis
23|rsenic
23|shes
23|uripigment
22|bath_of_mary
30|vapours
23|ismuth_ore
23|lack_sulfur
23|orax
27|-2
28|3
23|rick
22|caduceus
24|lx
24|put_mortuum
23|innabar
23|opper_antimoniate
29|ore
23|rocus_of_copper
38|-2
32|iron
24|ucible
30|-2
31|3
31|4
31|5
22|day-night
23|issolve
30|-2
25|till
22|earth
22|fire
22|gold
23|um
22|half_dram
27|ounce
23|orse_dung
24|ur
22|iron-copper_ore
26|_ore
30|-2
22|lead_ore
23|odestone
22|marcasite
23|ercury_sublimate
39|-2
40|3
23|onth
22|night
24|tre
22|oil
22|philosophers_sulfur
23|ot_ashes
24|wder
28|ed_brick
23|recipitate
23|urify
24|trefaction
22|quick_lime
25|ntessence
22|realgar
29|-2
24|gulus
29|-2
30|3
30|4
29|_of_antimony
41|-2
33|iron
24|tort
23|ock_salt
31|-2
22|sal-ammoniac
25|t
26|_of_antimony
30|copper_antimoniate
23|cepter_of_jove
23|ilver
23|oap
23|pirit
23|tarred_trident
24|ratum_super_stratum
43|-2
23|ublimate_of_antimony
35|copper
35|salt_of_antimony
43|copper
30|ion
24|lfur
22|tartar
28|-2
23|in_ore
25|cture
23|rident
23|utty
22|urine
22|verdigris
23|inegar
29|-2
30|3
29|_of_antimony
24|triol
29|-2
22|water
24|x
2|ef_symbol
3|mbic
3|rt
2|ien_monster
2|l_around-profile
4|equal_to
2|m
3|ost_equal_or_equal_to
13|to
15|_with_circumflex_accent
2|ternate_one-way_left_way_traffic
8|ive_key_symbol
1|malgamation_or_coproduct
2|bulance
2|erican_football
2|persand
3|hora
1|natolian_hieroglyph_a001
24|2
24|3
24|4
24|5
24|6
24|7
24|8
24|9
23|10
25|a
24|1
24|2
24|3
24|4
24|5
24|6
24|7
24|8
24|9
23|20
24|1
24|2
24|3
24|4
24|5
24|6
25|a
24|7
24|8
24|9
23|30
24|1
24|2
24|3
24|4
24|5
24|6
24|7
24|8
24|9
25|a
23|40
24|1
25|a
24|2
24|3
24|4
24|5
25|a
24|6
25|a
25|b
24|7
24|8
24|9
23|50
24|1
24|2
24|3
24|4
24|5
24|6
24|7
24|8
24|9
23|60
24|1
24|2
24|3
24|4
24|5
24|6
25|a
25|b
25|c
24|7
24|8
24|9
23|70
24|1
24|2
24|3
24|4
24|5
24|6
24|7
24|8
24|9
23|80
24|1
24|2
24|3
24|4
24|5
24|6
24|7
24|8
24|9
23|90
24|1
24|2
24|3
24|4
24|5
24|6
24|7
25|a
24|8
25|a
24|9
22|100
25|a
24|1
25|a
24|2
25|a
24|3
24|4
25|a
25|b
25|c
24|5
25|a
25|b
24|6
24|7
25|a
25|b
25|c
24|8
24|9
23|10
25|a
25|b
24|1
24|2
24|3
24|4
24|5
25|a
24|6
24|7
24|8
24|9
23|20
24|1
24|2
24|3
24|4
24|5
25|a
24|6
24|7
24|8
24|9
23|30
24|1
24|2
24|3
24|4
24|5
25|a
24|6
24|7
24|8
24|9
23|40
24|1
24|2
24|3
24|4
24|5
24|6
24|7
24|8
24|9
23|50
24|1
24|2
24|3
24|4
24|5
24|6
24|7
24|8
24|9
23|60
24|1
24|2
24|3
24|4
24|5
24|6
24|7
24|8
24|9
23|70
24|1
24|2
24|3
24|4
24|5
24|6
24|7
24|8
24|9
23|80
24|1
24|2
24|3
24|4
24|5
24|6
24|7
24|8
24|9
23|90
24|1
24|2
24|3
24|4
24|5
24|6
24|7
24|8
24|9
22|200
24|1
24|2
25|a
25|b
24|3
24|4
24|5
24|6
24|7
25|a
24|8
24|9
25|a
23|10
24|1
24|2
24|3
24|4
24|5
25|a
24|6
25|a
24|7
24|8
24|9
23|20
24|1
24|2
24|3
24|4
24|5
24|6
24|7
25|a
24|8
24|9
23|30
24|1
24|2
24|3
24|4
24|5
24|6
24|7
24|8
24|9
23|40
24|1
24|2
24|3
24|4
24|5
24|6
24|7
24|8
24|9
23|50
24|1
24|2
24|3
24|4
24|5
24|6
24|7
24|8
24|9
23|60
24|1
24|2
24|3
24|4
24|5
24|6
24|7
25|a
24|8
24|9
23|70
24|1
24|2
24|3
24|4
24|5
24|6
24|7
24|8
24|9
23|80
24|1
24|2
24|3
24|4
24|5
24|6
24|7
24|8
24|9
25|a
23|90
24|1
24|2
24|3
24|4
25|a
24|5
24|6
24|7
24|8
24|9
25|a
22|300
24|1
24|2
24|3
24|4
24|5
24|6
24|7
24|8
24|9
25|a
23|10
24|1
24|2
24|3
24|4
24|5
24|6
24|7
24|8
24|9
23|20
24|1
24|2
24|3
24|4
24|5
24|6
24|7
24|8
24|9
25|a
23|30
24|1
24|2a
25|b
25|c
24|3
24|4
24|5
24|6
25|a
25|b
25|c
24|7
24|8
24|9
23|40
24|1
24|2
24|3
24|4
24|5
24|6
24|7
24|8
24|9
23|50
24|1
24|2
24|3
24|4
24|5
24|6
24|7
24|8
24|9
25|a
23|60
24|1
24|2
24|3
24|4
25|a
24|5
24|6
24|7
24|8
25|a
24|9
23|70
24|1
25|a
24|2
24|3
24|4
24|5
24|6
24|7
24|8
24|9
23|80
24|1
25|a
24|2
24|3_ra_or_ri
25|a
24|4
24|5
24|6
25|a
24|7
24|8
24|9
23|90
24|1
24|2
24|3_eight
24|4
24|5
24|6
24|7
24|8
24|9
22|400
24|1
24|2
24|3
24|4
24|5
24|6
24|7
24|8
24|9
23|10_begin_logogram_mark
25|a_end_logogram_mark
24|1
24|2
24|3
24|4
24|5
24|6
24|7
24|8
24|9
23|20
24|1
24|2
24|3
24|4
24|5
24|6
24|7
24|8
24|9
23|30
24|1
24|2
24|3
24|4
24|5
24|6
24|7
24|8
24|9
23|40
24|1
24|2
24|3
24|4
24|5
24|6
24|7
24|8
24|9
23|50
25|a
24|1
24|2
24|3
24|4
24|5
24|6
24|7
25|a
24|8
24|9
23|60
24|1
24|2
24|3
24|4
24|5
24|6
24|7
24|8
24|9
23|70
24|1
24|2
24|3
24|4
24|5
24|6
24|7
24|8
24|9
23|80
24|1
24|2
24|3
24|4
24|5
24|6
24|7
24|8
24|9
23|90
24|1
24|2
24|3
24|4
24|5
24|6
24|7
22|501
24|2
24|3
24|4
24|5
24|6
24|7
24|8
24|9
23|10
24|1
24|2
24|3
24|4
24|5
24|6
24|7
24|8
24|9
23|20
24|1
24|2
24|3
24|4
24|5
24|6
24|7
24|8
24|9
23|30
5|mical_heart
2|chor
2|d_with_dot
2|ger_symbol
3|le
5|_with_s_inside
11|underbar
3|ry_face
3|strom_sign
3|uished_face
2|kh
2|t
3|enna_with_bars
3|iclockwise_closed_circle_arrow
15|ontour_integral
14|downwards_and_upwards_open_circle_arrows
14|gapped_circle_arrow
14|integration
14|open_circle_arrow
14|top_semicircle_arrow
15|riangle-headed_bottom_u-shaped_arrow
30|left_u-shaped_arrow
30|open_circle_arrow
30|right_u-shaped_arrow
30|top_u-shaped_arrow
1|pc
2|l_functional_symbol_alpha
27|_underbar
22|backslash_bar
22|circle_backslash
29|diaeresis
29|jot
29|star
31|ile
29|underbar
23|omma_bar
22|del_diaeresis
26|stile
26|tilde
25|ta_stile
28|underbar
23|iamond_underbar
23|own_caret_tilde
27|shoe_stile
27|tack_jot
32|underbar
26|wards_vane
22|epsilon_underbar
22|greater-than_diaeresis
22|i-beam
23|ota
26|_underbar
22|jot_diaeresis
26|underbar
22|left_shoe_stile
26|wards_vane
22|omega
27|_underbar
22|quad
26|_backslash
27|circle
28|olon
27|del
30|ta
28|iamond
29|vide
28|own_caret
31|wards_arrow
27|equal
27|greater-than
27|jot
27|leftwards_arrow
29|ss-than
27|not_equal
27|question
27|rightwards_arrow
27|slash
27|up_caret
29|wards_arrow
24|ote_quad
28|underbar
22|rho
23|ightwards_vane
22|semicolon_underbar
23|lash_bar
23|quish_quad
23|tar_diaeresis
24|ile_tilde
22|tilde_diaeresis
22|up_caret_tilde
25|shoe_jot
25|tack_diaeresis
30|jot
30|overbar
24|wards_vane
22|zilde
2|ollon
3|strophe
2|plication_program_command
3|roaches_the_limit
5|ximately_but_not_actually_equal_to
14|equal_or_equal_to
20|to
22|_or_the_image_of
1|quarius
1|rabic-indic_cube_root
13|digit_eight
19|five
20|our
19|nine
19|one
19|seven
20|ix
19|three
20|wo
19|zero
13|fourth_root
13|per_mille_sign
17|ten_thousand_sign
6|_baseline_round_dot
7|comma
8|urly_damma
18|tan
13|fatha
18|tan
13|kasra
18|tan
7|damma
12|_isolated_form
13|medial_form
13|with_dot
12|tan
15|_isolated_form
9|te_separator
8|ecimal_separator
8|isputed_end_of_ayah
8|ouble_right_arrowhead_above
35|_with_dot
13|d_madda
7|empty_centre_high_stop
20|low_stop
8|nd_of_ayah
14|text_mark
7|fatha
12|_isolated_form
13|medial_form
13|with_dot_above
18|ring
18|two_dots
12|tan
15|_isolated_form
8|ive_pointed_star
8|ootnote_marker
8|ull_stop
7|half_madda_over_madda
9|mza_above
13|below
7|inverted_damma
7|kasra
12|_isolated_form
13|medial_form
13|with_dot_below
12|tan
15|_isolated_form
7|large_circle_below
13|round_dot_above
23|below
23|inside_circle_below
8|eft_arrowhead_above
22|below
9|tter_ae
15|frican_feh
22|noon
22|qaf
25|_with_three_dots_above
15|in
17|_final_form
18|initial_form
19|solated_form
18|medial_form
18|with_three_dots_above
34|below
34|pointing_downwards_above
24|wo_dots_above
32|vertically_above
15|lef
18|_final_form
19|isolated_form
19|maksura
26|_final_form
27|isolated_form
19|wasla
24|_final_form
25|isolated_form
20|ith_attached_bottom_right_kasra
51|_and_dot_above
56|left_ring
33|fatha
33|kasra
33|left_hamza
38|round_dot
33|right_hamza
39|round_dot
34|ound_dot_above
43|below
33|top_right_fatha
48|_and_dot_above
53|left_ring
24|dot_above
24|extended_arabic-indic_digit_three_above
53|wo_above
24|hamza_above
35|_final_form
36|isolated_form
30|below
35|_final_form
36|isolated_form
24|left_middle_stroke
24|madda_above
35|_final_form
36|isolated_form
24|right_middle_stroke
43|_and_dot_above
48|left_ring
24|wavy_hamza_above
35|below
14|beeh
18|_final_form
19|initial_form
20|solated_form
19|medial_form
16|h
17|_final_form
18|initial_form
19|solated_form
18|medial_form
18|with_dot_below_and_three_dots_above
23|hamza_above
23|inverted_small_v_below
23|small_meem_above
29|v
30|_below
23|three_dots_horizontally_below
34|pointing_upwards_below
56|_and_two_dots_above
24|wo_dots_below_and_dot_above
17|eh
19|_final_form
20|initial_form
21|solated_form
20|medial_form
14|dad
17|_final_form
18|initial_form
19|solated_form
18|medial_form
18|with_dot_below
16|hal
19|_final_form
20|isolated_form
16|l
17|_final_form
18|isolated_form
18|with_dot_below
32|_and_small_tah
23|four_dots_above
23|inverted_small_v_below
32|v
23|ring
23|three_dots_above_downwards
34|below
24|wo_dots_vertically_below_and_small_tah
15|dahal
20|_final_form
21|isolated_form
17|l
18|_final_form
19|isolated_form
15|otless_beh
22|feh
22|qaf
15|ul
17|_final_form
18|isolated_form
15|yeh
18|_final_form
19|initial_form
20|solated_form
19|medial_form
14|e
15|_final_form
16|initial_form
17|solated_form
16|medial_form
14|farsi_yeh
23|_final_form
24|initial_form
25|solated_form
24|medial_form
24|with_extended_arabic-indic_digit_four_below
57|three_above
58|wo_above
29|inverted_v
29|three_dots_above
30|wo_dots_above
15|eh
17|_final_form
18|initial_form
19|solated_form
18|medial_form
18|with_dot_below
32|_and_three_dots_above
27|moved_below
23|three_dots_below
34|pointing_upwards_below
24|wo_dots_below
14|gaf
17|_final_form
18|initial_form
19|solated_form
18|medial_form
18|with_inverted_stroke
23|ring
23|three_dots_above
24|wo_dots_below
15|hain
19|_final_form
20|initial_form
21|solated_form
20|medial_form
20|with_dot_below
25|three_dots_above
15|raf
15|ueh
18|_final_form
19|initial_form
20|solated_form
19|medial_form
14|hah
17|_final_form
18|initial_form
19|solated_form
18|medial_form
18|with_extended_arabic-indic_digit_four_below
23|hamza_above
23|inverted_small_v_below
23|small_arabic_letter_tah_above
48|nd_two_dots
47|below
23|three_dots_above
34|pointing_upwards_below
24|wo_dots_above
32|vertical_above
16|mza
19|_isolated_form
15|eh
17|_doachashmee
29|_final_form
30|initial_form
31|solated_form
30|medial_form
18|final_form
18|goal
22|_final_form
23|initial_form
24|solated_form
23|medial_form
23|with_hamza_above
18|initial_form
19|solated_form
18|medial_form
18|with_inverted_v
23|yeh_above
32|_final_form
33|isolated_form
15|igh_hamza
24|_alef
25|waw
25|yeh
14|jeem
18|_final_form
19|initial_form
20|solated_form
19|medial_form
19|with_three_dots_above
35|below
25|wo_dots_above
16|h
17|_final_form
18|isolated_form
14|kaf
17|_final_form
18|initial_form
19|solated_form
18|medial_form
18|with_dot_above
27|below
23|ring
23|three_dots_below
24|wo_dots_above
16|shmiri_yeh
15|eheh
19|_final_form
20|initial_form
21|solated_form
20|medial_form
20|with_dot_above
25|small_v
25|three_dots_above
36|below
36|pointing_upwards_below
26|wo_dots_above
34|vertically_below
15|hah
18|_final_form
19|initial_form
20|solated_form
19|medial_form
15|irghiz_oe
24|_final_form
25|isolated_form
22|yu
24|_final_form
25|isolated_form
14|lam
17|_final_form
18|initial_form
19|solated_form
18|medial_form
18|with_bar
23|dot_above
25|uble_bar
23|small_arabic_letter_tah_above
29|v
23|three_dots_above
34|below
15|ow_alef
14|mark
15|eem
18|_final_form
19|initial_form
20|solated_form
19|medial_form
19|with_dot_above
28|below
24|three_dots_above
14|ng
16|_final_form
17|initial_form
18|solated_form
17|medial_form
16|oeh
19|_final_form
20|initial_form
21|solated_form
20|medial_form
15|oon
18|_final_form
19|ghunna
25|_final_form
26|isolated_form
19|initial_form
20|solated_form
19|medial_form
19|with_dot_below
24|inverted_small_v
24|ring
24|small_tah
30|v
24|three_dots_above
25|wo_dots_below
15|yeh
18|_final_form
19|initial_form
20|solated_form
19|medial_form
14|oe
16|_final_form
17|isolated_form
14|peh
17|_final_form
18|initial_form
19|solated_form
18|medial_form
18|with_small_meem_above
29|v
17|eh
19|_final_form
20|initial_form
21|solated_form
20|medial_form
14|qaf
17|_final_form
18|initial_form
19|solated_form
18|medial_form
18|with_dot_above
27|below
32|_and_no_dots_above
23|three_dots_above
14|reh
17|_final_form
18|isolated_form
18|with_dot_below
32|_and_dot_above
23|four_dots_above
23|hamza_above
23|inverted_v
23|loop
23|ring
23|small_arabic_letter_tah_and_two_dots
29|noon_above
29|v
30|_below
24|troke
23|two_dots_above
32|vertically_above
15|noon
19|_final_form
20|initial_form
21|solated_form
20|medial_form
15|ohingya_yeh
15|reh
18|_final_form
19|isolated_form
14|sad
17|_final_form
18|initial_form
19|solated_form
18|medial_form
18|with_three_dots_above
34|below
24|wo_dots_below
15|een
18|_final_form
19|initial_form
20|solated_form
19|medial_form
19|with_dot_below_and_dot_above
24|extended_arabic-indic_digit_four_above
24|four_dots_above
24|inverted_v
24|small_arabic_letter_tah_and_two_dots
24|three_dots_below
40|_and_three_dots_above
25|wo_dots_vertically_above
15|heen
19|_final_form
20|initial_form
21|solated_form
20|medial_form
20|with_dot_below
15|traight_waw
15|uperscript_alef
15|wash_kaf
14|tah
17|_final_form
18|initial_form
19|solated_form
18|medial_form
18|with_dot_below
23|three_dots_above
34|below
24|wo_dots_above
15|cheh
19|_final_form
20|initial_form
21|solated_form
20|medial_form
20|with_dot_above
25|small_v
19|eh
21|_final_form
22|initial_form
23|solated_form
22|medial_form
15|eh
17|_final_form
18|initial_form
19|solated_form
18|marbuta
25|_final_form
26|goal
26|isolated_form
19|edial_form
18|with_ring
23|small_teh_above
29|v
23|three_dots_above_downwards
17|eh
19|_final_form
20|initial_form
21|solated_form
20|medial_form
15|hal
18|_final_form
19|isolated_form
16|eh
18|_final_form
19|initial_form
20|solated_form
19|medial_form
16|in_yeh
15|teh
18|_final_form
19|initial_form
20|solated_form
19|medial_form
19|with_small_v
18|eh
20|_final_form
21|initial_form
22|solated_form
21|medial_form
14|u
15|_final_form
16|isolated_form
16|with_hamza_above
32|_isolated_form
15|ighur_kazakh_kirghiz_alef_maksura_initial_form
49|medial_form
14|ve
16|_final_form
17|isolated_form
16|h
17|_final_form
18|initial_form
19|solated_form
18|medial_form
14|waw
17|_final_form
18|isolated_form
18|with_dot_above
27|within
23|extended_arabic-indic_digit_three_above
52|wo_above
23|hamza_above
34|_final_form
35|isolated_form
23|ring
23|two_dots_above
14|yeh
17|_barree
24|_final_form
25|isolated_form
25|with_extended_arabic-indic_digit_three_above
59|wo_above
30|hamza_above
41|_final_form
42|isolated_form
18|final_form
18|initial_form
19|solated_form
18|medial_form
18|with_hamza_above
34|_final_form
35|initial_form
36|solated_form
35|medial_form
23|small_v
23|tail
24|hree_dots_below
24|wo_dots_below_and_dot_above
42|hamza_above
42|small_noon_above
15|u
16|_final_form
17|isolated_form
14|zah
17|_final_form
18|initial_form
19|solated_form
18|medial_form
16|in
18|_final_form
19|isolated_form
19|with_inverted_v_above
8|igature_ain_with_alef_maksura_final_form
38|isolated_form
25|jeem_initial_form
31|solated_form
30|with_meem_final_form
40|initial_form
25|meem_initial_form
31|solated_form
30|with_alef_maksura_final_form
35|meem_final_form
40|initial_form
35|yeh_final_form
25|yeh_final_form
29|isolated_form
17|kbar_isolated_form
17|layhaa_as-salaam
21|e_isolated_form
21|i_as-salaam
31|tu_was-salaam
22|m_as-salaam
23|aa_as-salaam
18|ef_maksura_with_superscript_alef_final_form
51|isolated_form
21|with_fathatan_final_form
35|isolated_form
18|lah_isolated_form
17|zza_wa_jall
16|beh_with_alef_maksura_final_form
38|isolated_form
25|hah_initial_form
30|solated_form
29|with_yeh_final_form
26|eh_initial_form
29|medial_form
25|jeem_initial_form
31|solated_form
25|khah_initial_form
31|solated_form
30|with_yeh_final_form
25|meem_final_form
30|initial_form
31|solated_form
30|medial_form
25|noon_final_form
25|reh_final_form
25|yeh_final_form
29|isolated_form
25|zain_final_form
17|ismillah_ar-rahman_ar-raheem
16|dad_with_alef_maksura_final_form
38|isolated_form
25|hah_initial_form
30|solated_form
29|with_alef_maksura_final_form
34|yeh_final_form
25|jeem_initial_form
31|solated_form
25|khah_initial_form
31|solated_form
30|with_meem_final_form
40|initial_form
25|meem_initial_form
31|solated_form
25|reh_final_form
29|isolated_form
25|yeh_final_form
29|isolated_form
16|feh_with_alef_maksura_final_form
38|isolated_form
25|hah_initial_form
30|solated_form
25|jeem_initial_form
31|solated_form
25|khah_initial_form
31|solated_form
30|with_meem_final_form
40|initial_form
25|meem_initial_form
31|solated_form
30|with_yeh_final_form
25|yeh_final_form
29|isolated_form
16|ghain_with_alef_maksura_final_form
40|isolated_form
27|jeem_initial_form
33|solated_form
27|meem_initial_form
33|solated_form
32|with_alef_maksura_final_form
37|meem_final_form
37|yeh_final_form
27|yeh_final_form
31|isolated_form
16|hah_with_alef_maksura_final_form
38|isolated_form
25|jeem_initial_form
31|solated_form
30|with_yeh_final_form
25|meem_initial_form
31|solated_form
30|with_alef_maksura_final_form
35|yeh_final_form
25|yeh_final_form
29|isolated_form
17|eh_with_alef_maksura_isolated_form
25|jeem_initial_form
31|solated_form
25|meem_initial_form
31|solated_form
30|with_jeem_initial_form
35|meem_initial_form
25|superscript_alef_initial_form
25|yeh_isolated_form
16|jallajalalouhou
17|eem_with_alef_maksura_final_form
39|isolated_form
26|hah_initial_form
31|solated_form
30|with_alef_maksura_final_form
35|yeh_final_form
26|meem_initial_form
32|solated_form
31|with_alef_maksura_final_form
36|hah_final_form
40|initial_form
36|yeh_final_form
26|yeh_final_form
30|isolated_form
16|kaf_with_alef_final_form
30|isolated_form
30|maksura_final_form
38|isolated_form
25|hah_initial_form
30|solated_form
25|jeem_initial_form
31|solated_form
25|khah_initial_form
31|solated_form
25|lam_final_form
29|initial_form
30|solated_form
29|medial_form
25|meem_final_form
30|initial_form
31|solated_form
30|medial_form
30|with_meem_final_form
40|initial_form
35|yeh_final_form
25|yeh_final_form
29|isolated_form
17|hah_with_alef_maksura_final_form
39|isolated_form
26|hah_isolated_form
26|jeem_initial_form
32|solated_form
26|meem_initial_form
32|solated_form
26|yeh_final_form
30|isolated_form
16|lam_with_alef_final_form
30|isolated_form
30|maksura_final_form
38|isolated_form
30|with_hamza_above_final_form
47|isolated_form
41|below_final_form
47|isolated_form
35|madda_above_final_form
47|isolated_form
25|hah_initial_form
30|solated_form
29|with_alef_maksura_final_form
34|meem_final_form
39|initial_form
34|yeh_final_form
26|eh_initial_form
25|jeem_initial_form
31|solated_form
30|with_jeem_final_form
40|initial_form
35|meem_final_form
40|initial_form
35|yeh_final_form
25|khah_initial_form
31|solated_form
30|with_meem_final_form
40|initial_form
25|meem_final_form
30|initial_form
31|solated_form
30|medial_form
30|with_hah_final_form
39|initial_form
35|yeh_final_form
25|yeh_final_form
29|isolated_form
16|meem_with_alef_final_form
31|maksura_isolated_form
26|hah_initial_form
31|solated_form
30|with_jeem_initial_form
35|meem_initial_form
35|yeh_final_form
26|jeem_initial_form
32|solated_form
31|with_hah_initial_form
36|khah_initial_form
36|meem_initial_form
36|yeh_final_form
26|khah_initial_form
32|solated_form
31|with_jeem_initial_form
36|meem_initial_form
36|yeh_final_form
26|meem_final_form
31|initial_form
32|solated_form
31|with_yeh_final_form
26|yeh_isolated_form
17|ohammad_isolated_form
16|noon_with_alef_maksura_final_form
39|isolated_form
26|hah_initial_form
31|solated_form
30|with_alef_maksura_final_form
35|meem_initial_form
35|yeh_final_form
27|eh_initial_form
30|medial_form
26|jeem_initial_form
32|solated_form
31|with_alef_maksura_final_form
36|hah_final_form
40|initial_form
36|meem_final_form
41|initial_form
36|yeh_final_form
26|khah_initial_form
32|solated_form
26|meem_final_form
31|initial_form
32|solated_form
31|medial_form
31|with_alef_maksura_final_form
36|yeh_final_form
26|noon_final_form
26|reh_final_form
26|yeh_final_form
30|isolated_form
26|zain_final_form
16|qaf_with_alef_maksura_final_form
38|isolated_form
25|hah_initial_form
30|solated_form
25|meem_initial_form
31|solated_form
30|with_hah_final_form
39|initial_form
35|meem_final_form
35|yeh_final_form
25|yeh_final_form
29|isolated_form
18|la_used_as_koranic_stop_sign_isolated_form
17|uddisa_sirrah
16|radi_allaahu_anh
32|aa
32|um
34|aa
33|nna
18|himahu_allaah
24|m_allaah
18|soul_isolated_form
17|eh_with_superscript_alef_isolated_form
16|sad_with_alef_maksura_final_form
38|isolated_form
25|hah_initial_form
30|solated_form
29|with_hah_final_form
38|initial_form
34|yeh_final_form
25|khah_initial_form
25|meem_initial_form
31|solated_form
30|with_meem_final_form
40|initial_form
25|reh_final_form
29|isolated_form
25|yeh_final_form
29|isolated_form
18|laamuhu_alaynaa
20|m_isolated_form
19|la_isolated_form
22|used_as_koranic_stop_sign_isolated_form
21|llaahu_alayhi_wa-aalih
24|hou_alayhe_wasallam
25|u_alayhi_waaalihee_wa-sallam
17|een_with_alef_maksura_final_form
39|isolated_form
26|hah_initial_form
31|solated_form
30|medial_form
30|with_jeem_initial_form
27|eh_initial_form
30|medial_form
26|jeem_initial_form
32|solated_form
31|medial_form
31|with_alef_maksura_final_form
36|hah_initial_form
26|khah_initial_form
32|solated_form
31|medial_form
31|with_alef_maksura_final_form
36|yeh_final_form
26|meem_initial_form
32|solated_form
31|medial_form
31|with_hah_final_form
40|initial_form
36|jeem_initial_form
36|meem_final_form
41|initial_form
26|reh_final_form
30|isolated_form
26|yeh_final_form
30|isolated_form
17|hadda_with_damma_isolated_form
34|medial_form
33|tan_isolated_form
28|fatha_isolated_form
34|medial_form
28|kasra_isolated_form
34|medial_form
33|tan_isolated_form
28|superscript_alef_isolated_form
18|een_with_alef_maksura_final_form
40|isolated_form
27|hah_final_form
31|initial_form
32|solated_form
31|medial_form
31|with_meem_final_form
41|initial_form
36|yeh_final_form
28|eh_initial_form
31|medial_form
27|jeem_final_form
32|initial_form
33|solated_form
32|medial_form
32|with_yeh_final_form
27|khah_final_form
32|initial_form
33|solated_form
32|medial_form
27|meem_final_form
32|initial_form
33|solated_form
32|medial_form
32|with_khah_final_form
42|initial_form
37|meem_final_form
42|initial_form
27|reh_final_form
31|isolated_form
27|yeh_final_form
31|isolated_form
17|ubhaanahu_wa_taaalaa
16|tabaaraka_wa-taaalaa
18|h_with_alef_maksura_final_form
38|isolated_form
25|hah_initial_form
30|solated_form
25|meem_initial_form
31|solated_form
30|medial_form
30|with_hah_final_form
39|initial_form
35|meem_initial_form
35|yeh_final_form
25|yeh_final_form
29|isolated_form
17|eh_with_alef_maksura_final_form
38|isolated_form
25|hah_initial_form
30|solated_form
29|with_jeem_final_form
39|initial_form
34|meem_initial_form
26|eh_initial_form
29|medial_form
25|jeem_initial_form
31|solated_form
30|with_alef_maksura_final_form
35|meem_initial_form
35|yeh_final_form
25|khah_initial_form
31|solated_form
30|with_alef_maksura_final_form
35|meem_initial_form
35|yeh_final_form
25|meem_final_form
30|initial_form
31|solated_form
30|medial_form
30|with_alef_maksura_final_form
35|hah_initial_form
35|jeem_initial_form
35|khah_initial_form
35|yeh_final_form
25|noon_final_form
25|reh_final_form
25|yeh_final_form
29|isolated_form
25|zain_final_form
17|hal_with_superscript_alef_isolated_form
18|eh_with_alef_maksura_final_form
39|isolated_form
26|heh_medial_form
26|jeem_isolated_form
26|meem_final_form
31|initial_form
32|solated_form
31|medial_form
26|noon_final_form
26|reh_final_form
26|yeh_final_form
30|isolated_form
26|zain_final_form
16|uighur_kirghiz_yeh_with_hamza_above_with_alef_maksura_final_form
70|initial_form
71|solated_form
16|wasallam_isolated_form
16|yeh_with_alef_maksura_final_form
38|isolated_form
25|hah_initial_form
30|solated_form
29|with_yeh_final_form
27|mza_above_with_ae_final_form
45|isolated_form
43|lef_final_form
47|isolated_form
47|maksura_final_form
55|isolated_form
42|e_final_form
44|initial_form
45|solated_form
42|hah_initial_form
47|solated_form
43|eh_initial_form
46|medial_form
42|jeem_initial_form
48|solated_form
42|khah_initial_form
42|meem_final_form
47|initial_form
48|solated_form
47|medial_form
42|noon_final_form
42|oe_final_form
45|isolated_form
42|reh_final_form
42|u_final_form
44|isolated_form
42|waw_final_form
46|isolated_form
42|yeh_final_form
46|isolated_form
43|u_final_form
45|isolated_form
42|zain_final_form
26|eh_initial_form
29|medial_form
25|jeem_initial_form
31|solated_form
30|with_yeh_final_form
25|khah_initial_form
31|solated_form
25|meem_final_form
30|initial_form
31|solated_form
30|medial_form
30|with_meem_final_form
40|initial_form
35|yeh_final_form
25|noon_final_form
25|reh_final_form
25|yeh_final_form
29|isolated_form
25|zain_final_form
16|zah_with_meem_initial_form
31|solated_form
30|medial_form
7|madda_waajib
12|h_above
9|rk_noon_ghunna
12|sideways_noon_ghunna
9|thematical_ain
21|lef
20|beh
20|dad
22|l
21|otless_beh
28|feh
28|noon
28|qaf
22|uble-struck_ain
34|beh
34|dad
36|l
34|feh
34|ghain
34|hah
34|jeem
34|khah
34|lam
34|meem
34|noon
34|qaf
34|reh
34|sad
35|een
35|heen
34|tah
35|eh
35|hal
36|eh
34|waw
34|yeh
34|zah
36|in
20|feh
20|ghain
20|hah
20|initial_ain
28|beh
28|dad
28|feh
28|ghain
28|hah
29|eh
28|jeem
28|kaf
29|hah
28|lam
28|meem
28|noon
28|qaf
28|sad
29|een
29|heen
28|teh
29|heh
28|yeh
20|jeem
20|kaf
21|hah
20|lam
21|ooped_ain
28|lef
27|beh
27|dad
29|l
27|feh
27|ghain
27|hah
28|eh
27|jeem
27|khah
27|lam
27|meem
27|noon
27|qaf
27|reh
27|sad
28|een
28|heen
27|tah
28|eh
28|hal
29|eh
27|waw
27|yeh
27|zah
29|in
20|meem
20|noon
20|operator_hah_with_dal
29|meem_with_hah_with_tatweel
20|qaf
20|reh
20|sad
21|een
21|heen
21|tretched_ain
30|beh
30|dad
31|otless_beh
38|feh
30|feh
30|ghain
30|hah
31|eh
30|jeem
30|kaf
31|hah
30|meem
30|noon
30|qaf
30|sad
31|een
31|heen
30|tah
31|eh
31|heh
30|yeh
30|zah
20|tah
22|iled_ain
27|dad
28|otless_noon
35|qaf
27|ghain
27|hah
27|jeem
27|khah
27|lam
27|noon
27|qaf
27|sad
28|een
28|heen
27|yeh
21|eh
21|hal
22|eh
20|waw
20|yeh
20|zah
22|in
7|number_mark_above
14|sign
7|open_dammatan
12|fathatan
12|kasratan
7|percent_sign
8|iastre_mark_above
8|lace_of_sajdah
8|oetic_verse_sign
9|und_mark_above
7|question_mark
7|raised_round_dot
9|y
8|eversed_damma
8|ight_arrowhead_above
28|_with_dot
23|below
8|ounded_high_stop_with_filled_centre
7|semicolon
8|hadda
13|_isolated_form
14|medial_form
8|ign_alayhe_assallam
12|misra
12|radi_allahou_anhu
14|hmatullah_alayhe
12|safha
14|llallahou_alayhe_wassallam
14|mvat
14|nah
13|indhi_ampersand
19|postposition_men
12|takhallus
8|mall_damma
13|farsi_yeh
15|tha
13|high_ain
18|dotless_head_of_khah
18|farsi_yeh
19|ootnote_marker
18|jeem
18|lam_alef
19|igature_alef_with_lam_with_yeh
27|qaf_with_lam_with_alef_maksura
27|sad_with_lam_with_alef_maksura
18|madda
19|eem_initial_form
24|solated_form
18|noon
22|_with_kasra
18|qaf
18|rounded_zero
18|sad
19|een
19|ign_safha
18|tah
19|hree_dots
18|upright_rectangular_zero
18|waw
19|ord_al-juz
24|n-nisf
24|r-rub
24|s-sajda
24|th-thalatha
23|qif
23|sah
25|kta
23|waqfa
18|yeh
21|_barree_with_two_dots_below
18|zah
20|in
13|kasra
13|low_meem
17|noon_with_kasra
17|seen
17|waw
18|ord_imaala
23|shmaam
22|tasheel
13|waw
13|yeh
8|tart_of_rub_el_hizb
8|ubscript_alef
9|kun
12|_below
13|isolated_form
13|medial_form
9|perscript_alef_mokhassas
8|ymbol_dot_above
18|below
16|uble_vertical_bar_below
14|four_dots_above
24|below
14|ring
14|small_tah_above
24|below
14|three_dots_above
25|below
25|pointing_downwards_above
44|below
15|wo_dots_above
23|below
23|vertically_above
34|below
14|wasla_above
7|tail_fragment
9|tweel
14|_with_fathatan_above
20|overstruck_hamza
31|waw
20|two_dots_below
8|housands_separator
8|one_loop_above
17|below
12|one_dot_above
20|below
12|two_dots_above
21|below
8|riple_dot_punctuation_mark
8|urned_damma_below
7|vertical_tail
8|owel_sign_dot_below
18|inverted_small_v_above
18|small_v_above
7|wavy_hamza_below
7|zwarakay
2|c
2|ies
2|menian_abbreviation_mark
10|postrophe
9|capital_letter_ayb
24|ben
24|ca
25|ha
26|eh
25|o
24|da
24|ech
25|h
25|t
24|feh
24|ghad
25|im
24|ho
24|ini
24|ja
25|heh
24|keh
26|n
24|liwn
24|men
24|now
24|oh
24|peh
25|iwr
24|ra
25|eh
24|seh
25|ha
24|tiwn
25|o
24|vew
25|o
24|xeh
24|yi
26|wn
24|za
25|he
10|omma
9|dram_sign
9|emphasis_mark
10|xclamation_mark
9|full_stop
9|hyphen
9|modifier_letter_left_half_ring
9|question_mark
9|small_letter_ayb
22|ben
22|ca
23|ha
24|eh
23|o
22|da
22|ech
23|h
23|t
22|feh
22|ghad
23|im
22|ho
22|ini
22|ja
23|heh
22|keh
24|n
22|liwn
22|men
22|now
22|oh
22|peh
23|iwr
22|ra
23|eh
22|seh
23|ha
22|tiwn
23|o
23|urned_ayb
22|vew
23|o
22|xeh
22|yi
24|_with_stroke
24|wn
22|za
23|he
16|igature_ech_yiwn
24|men_ech
28|ini
28|now
28|xeh
24|vew_now
2|row_pointing_downwards_then_curving_leftwards
38|rightwards
15|rightwards_then_curving_downwards
39|south_west
39|upwards
15|upwards_then_north_west
5|head-shaped_pointer
2|ticulated_lorry
4|st_palette
1|scending_node
3|ia_symbol
2|sertion
2|terisk
8|_operator
7|m
3|onished_face
3|raea
4|onomical_symbol_for_uranus
2|ymptotically_equal_to
1|thletic_shoe
2|om_symbol
1|ubergine
2|stral_sign
2|to_rickshaw
4|mated_teller_machine
5|obile
1|vestan_abbreviation_mark
8|letter_a
16|a
17|n
17|o
16|e
17|e
16|n
16|o
15|be
16|he
15|ce
15|de
16|he
15|e
16|e
15|fe
15|ge
16|ge
16|he
15|he
16|me
15|i
16|i
15|je
15|ke
15|le
15|me
15|ne
16|ge
17|ve
17|ye
16|ne
16|ye
15|o
16|o
15|pe
15|re
15|se
16|he
17|ye
16|she
15|te
16|he
16|te
15|u
16|u
15|ve
15|xe
16|ve
16|ye
15|ye
16|ye
15|ze
16|he
2|ocado
1|xe
0|baby
4|_angel
5|bottle
5|chick
5|symbol
2|ck-tilted_shadowed_white_rightwards_arrow
4|_of_envelope
5|with_leftwards_arrow_above
4|slanted_south_arrow_with_hooked_tail
31|rizontal_tail
5|pace
3|on
3|trian_camel
2|dger
3|minton_racquet_and_shuttlecock
2|gel
3|gage_claim
3|uette_bread
2|linese_adeg_adeg
9|carik_pamungkah
17|reren
15|siki
9|digit_eight
15|five
16|our
15|nine
15|one
15|seven
16|ix
15|three
16|wo
15|zero
9|letter_aikara
17|kara
21|_tedung
17|rchaic_jnya
17|syura_sasak
16|ba
18|_kembang
16|ca
18|_laca
16|da
18|_madu
20|urda_alpaprana
25|mahaprana
16|ef_sasak
17|kara
16|ga
18|_gora
16|ha
16|ikara
21|_tedung
16|ja
18|_jera
16|ka
18|_mahaprana
18|f_sasak
17|hot_sasak
16|la
18|_lenga
24|_tedung
16|ma
16|na
18|_rambat
17|ga
17|ya
16|okara
21|_tedung
16|pa
18|_kapal
16|ra
18|_repa
23|_tedung
16|sa
18|_saga
21|pa
16|ta
18|_latik
19|murda_mahaprana
19|tawa
17|zir_sasak
16|ukara
21|_tedung
16|ve_sasak
16|wa
16|ya
16|zal_sasak
9|musical_symbol_combining_bende
34|endep
34|gong
34|jegogan
34|kempli
40|_with_jegogan
38|ul
40|_with_jegogan
34|tegeh
24|daeng
26|ing
26|ng
28|_gede
29|surang
25|eng
26|ung
25|ing
25|ong
25|ung
24|left-hand_closed_plak
43|uk
34|open_pang
40|ing
40|ung
24|right-hand_closed_tak
43|uk
35|open_dag
41|ug
9|pamada
15|_lantang
12|eneng
11|nti
14|_lantang
9|sign_bisah
14|cecek
14|rerekan
14|surang
14|ulu_candra
18|ricem
9|vowel_sign_la_lenga
28|_tedung
20|pepet
25|_tedung
20|ra_repa
27|_tedung
20|suku
24|_ilut
20|taling
26|_repa
31|_tedung
27|tedung
21|edung
20|ulu
23|_sari
9|windu
3|l_of_yarn
4|et_shoes
4|oon
7|-spoked_asterisk
5|t_bold_script_x
9|x
10|_with_ballot
17|old_check
21|script_x
16|check
16|light_x
16|script_x
16|x
7|script_x
7|x
2|mum_colon
8|mbining_mark_koqndon
21|tukwentis
9|ma
6|full_stop
6|letter_a
13|ee
13|faamae
14|ee
14|om
14|u
13|i
13|ka
14|en
15|t
15|ux
14|i
14|o
15|ghom
15|vuu
14|pa
14|u
14|yee
13|la
14|eeee
14|i
14|oq
14|u
13|m
14|a
14|baa
15|en
14|eeee
15|n
14|i
14|o
14|u
13|na
14|daa
14|ga
15|ga
15|kwaen
14|i
14|jaem
15|ee
15|uae
14|sha
14|tee
15|uu
14|u
15|ae
14|yi
13|o
13|pa
14|ee
15|ux
14|hase-a_firi
21|gbiee_fon
22|heuaegheuae
27|rae
21|kafa
23|q
22|et
23|ukeutnda
22|poq
22|uoq
21|lapaq
22|et_kut
22|ommae
22|u
23|aep
21|maekeup
24|m
25|bgbiee
25|kpen
25|veux
24|nyi
24|si
23|nsuae
23|p_pieet
22|banyi
24|q
22|eunjomndeuq
22|gbasa
22|on_nggeuaet
23|omeut
25|puq
22|veuaengam
21|naa_mfon
23|q
22|da_leeraewa
24|anggeuaet
22|en
22|gangu
23|gen
23|kue_mfon
26|nzeum
22|ika
22|jam
22|kaarae
23|indi
22|sha
24|iee
22|tap
25|_mfaa
26|ntaa
23|oqpen
22|yet
23|i
24|t_mongkeuaeq
22|za_mfon
23|un_meut
21|pa_leeraewa
23|am
24|rae
23|mshae
23|shae
22|et
22|on_mfon_pipaemba
36|gbiee
25|pa_nji_pipaemba
38|gbiee
22|up
21|rom
21|seunyam
22|hinda_pa_nji
24|rae
23|oq_nshut_yum
23|uenshuet
24|m
22|isa
22|onjam
23|q
23|t
22|uu
21|teuaen
24|teuwen
22|ita_mfon
22|u_maemba
23|aep
21|u_yuq_nae
22|nknown
21|vee
19|b_fee
23|ux
21|gheughen
28|uaem
21|kam
22|euaem
24|puq
24|yeux
22|ieem
23|q
21|laanae
23|m_nshut_nyam
22|et
22|om_nteum
21|ma
23|_njeuaena
26|uqa
22|ba_maelee
24|arae
23|euri
23|it_mbaaket
23|uoq
22|euq
24|t_nggeet
22|fiyaq
23|on_teuaeq
22|ontieen
21|ndu_njaa
22|ggaam
24|eu_mbu
24|uoq
27|_large
23|kindi_mvop
23|om
22|sen
23|huet
22|tiee_sheuoq
22|yaemae
23|i_nteum
21|parum
22|eeshi
22|it
22|ungaam
21|sakeuae
22|et_tu
22|het_njaq
24|uaeqtu
22|iee
22|ue
21|taam
22|u_maemgbiee
24|nsiee
21|veum
21|wuaet
21|yafu_leeraewa
22|eurae
19|c_bung
21|fue
21|gbayi
22|hap
24|rae
21|kaa
22|en_fatigue
25|law
23|t
23|ukaq
24|m
24|seux
25|heuaep
22|paraq
22|uop_nkaarae
23|t
21|lam
23|p
22|iq
22|u
21|ma_keuaeri
24|nsiee
23|emba
24|si
22|baa_cabbage-tree
26|picket
24|nyi
23|eekeet
24|rae
24|um
25|x
23|i
24|rieen
24|t
23|uaem
24|e
22|gbasaq
22|iee
22|uae
21|nansanaq
23|q
22|dam
24|p
23|euaeree
25|t
23|ida
23|ombu
22|gaq
23|gen
24|u
25|aen_nyam
25|eet
25|m
25|on
23|kaq
24|ue_maemba
23|om
22|jaem
24|m
23|eeee
24|ux
23|ueq
22|sa
23|euaen
23|haq
23|om
23|un
24|ot_ngom
22|taa
23|en
24|ungba
23|u_mbit
22|yir_mkparaq_meun
22|za
23|eum
21|pen
22|in
23|rieen
21|ru
21|setfon
23|ux
22|hiq
23|ueq
22|uaet
21|taashae
22|et
23|uteux
22|ita_yue
24|uaep
21|veuaepen
24|x
21|wangkuoq
22|up
21|yaa
22|euq
22|u_muomae
23|m
23|woq
19|d_faa
22|eufeuaet
21|ghaa
23|euae
21|ket
23|uaetmeun
24|m
24|ot_mbuae
24|p
22|u
23|n
23|om
23|q
22|waet
22|yee
21|leeee
23|t
23|uaep
24|m
22|iee
22|oq
22|um
21|m
22|aenjet
23|leeri
22|baa
25|_seven
23|uo
22|eeee
23|un
24|t
22|feuae
25|t
23|iee
23|o
24|n
22|gbeun
24|iee
24|ofum
22|oni
22|u
22|vop
21|ndam
23|ee
24|ux
23|on
22|ggaam
27|ae
25|p
24|eux
24|uom
24|waen
23|kap
24|euaeq
26|ri
24|iee
24|un
24|yee
22|i
22|jap
23|euaem
25|t
23|i
24|ee
23|ueq
22|shee
24|ut
23|ieep
26|t
23|um
22|tee
24|um
23|uu
22|u
22|yam
23|et
23|i
23|ue
21|pap
22|ee
23|utae
22|ip
22|uq
23|ut
21|raem
22|en_much
25|old
22|ii
21|sap
23|q
22|euaeq
22|hee
24|uae
25|x
23|ii
23|oq
23|u
22|ot
22|uae
23|e
23|u
21|tae
22|eeee
23|uaen
24|n
24|t
22|i
22|oq
22|u
23|ot
21|wap
22|uaen
21|yaemmae
22|en
22|uom
24|p
23|woq
19|e_a
21|fa
23|q
22|ee
22|om
22|u_call
24|i
24|remedy
23|e
24|t
21|gbet
24|ux
22|haamae
23|et
24|uae
25|n
25|x
23|om
21|i
21|ket
23|uae
24|x
22|i
22|o
22|peux
22|uet
23|op
23|t
21|laam
23|p
23|q
22|euaem
22|om
23|on
24|t
23|q
22|u
21|ma
23|e
24|m
23|p
23|q
22|bee
24|um
22|en
22|feuq
22|gba
24|en
22|i
23|ee
22|on
22|uae
22|vi
21|na
23|e
22|daa_my_house
26|softness
24|p
23|iaq
24|q
23|un
22|ga
23|eureut
23|geeee
25|uae
28|t
24|uaeshae_nyam
25|p
25|rae
23|ka
25|ami
24|euaem
26|x
24|um
25|p
23|op
24|q
23|uae
26|t
22|jaemli
23|ee
25|_epoch
24|ux
22|kom
22|shiee
24|ue
25|op
22|tap
23|um
22|yi_between
25|cleaver
22|zaq
23|uq
21|o
21|pa_people
25|lural
23|a
24|m
22|eem
23|ut
24|x
22|i
23|eeq
24|t
22|o
23|on
22|u
23|ae
24|q
23|e
23|m
21|rae
23|q
22|eux
22|imgba
21|saa
22|ee
23|t
22|heuaeq
23|iq
23|o
24|q
22|om
22|uaen
21|taa
24|q
23|en_nteum
23|m
23|q
22|en
23|u
24|aeq
22|oo
24|n
23|q
22|uae
23|m
24|ae
21|vee
23|uae
22|om
21|weux
22|ue
23|o
21|yap
22|euae
26|t
24|m
24|x
22|iee
23|t
22|oq_cover
25|swimming
22|uaen
23|eq
23|n
23|q
19|f_ee
21|fom
21|ka
22|en
23|t
22|o
22|pa
22|u
22|yee
21|la
22|i
22|oq
21|m
22|a
22|baa
23|en
22|eeee
22|o
21|ndaa
22|gga
23|kwaen
22|i
22|jaem
23|uae
22|sha
22|tee
22|u
23|ae
22|yi
21|pee
23|ux
22|uae
21|ree
23|n
23|ux
22|iee
23|i
22|u
21|samba
22|eux
22|hii
23|o
23|u
22|i
22|uu
21|taa
23|e
22|et
21|u
21|vueq
21|wa
22|ue
21|ya
22|oq
14|i
14|uae
15|e
13|rae
14|ee
15|n
15|ux
14|iee
15|i
14|u
13|samba
14|eux
14|heux
15|ii
15|o
15|u
14|i
14|uu
13|taa
15|e
14|en
15|t
14|i
13|u
13|wa
14|ue
13|ya
14|oq
14|uq
6|njaemli
6|question_mark
6|semicolon
2|nana
3|jo
3|k
4|note_with_dollar_sign
14|euro_sign
14|pound_sign
14|yen_sign
2|r_chart
4|of_soap
3|ber_pole
2|seball
3|ket
6|ball_and_hoop
3|sa_vah_combining_high-low_tone
24|_tone
20|low-mid_tone
23|_tone
20|mid_tone
10|full_stop
10|letter_a
17|ba
17|ce
17|dhii
18|o
17|e
18|e
18|nni
17|fa
17|gah
18|bu
17|hwah
17|i
17|jo
17|ka
18|pah
17|mbe
17|o
18|o
17|pa
17|se
17|to
17|u
18|wu
17|vu
17|wa
19|dda
17|yein
18|ie
17|zo
2|t
3|ak_consonant_sign_h
21|ng
6|letter_a
13|ba
13|ca
13|da
13|ga
13|ha
13|i
13|ja
13|karo_ba
13|la
13|ma
15|ndailing_ha
24|na
24|sa
14|ba
13|na
14|da
14|ga
14|orthern_ta
14|ya
13|pa
15|kpak_wa
13|ra
13|sa
14|imalungun_a
24|ga
24|ha
24|la
24|ma
24|pa
24|ra
24|sa
24|wa
24|ya
14|outhern_ta
13|u
13|wa
13|ya
6|pangolat
9|ongonan
6|sign_tompi
7|ymbol_bindu_judul
19|na_metek
19|pangolat
20|inarboras
6|vowel_sign_e
18|e
17|i
17|karo_i
22|o
17|o
17|pakpak_e
17|u
18|_for_simalungun_sa
3|h
4|tub
3|tery
1|each_with_umbrella
3|med_ascending_musical_notes
7|descending_musical_notes
7|eighth_notes
7|sixteenth_notes
3|ns
3|r_face
4|ded_person
3|ting_heart
3|ver
2|cause
2|d
2|er_mug
3|tle
2|l
3|l
4|_pepper
5|symbol
5|with_cancellation_stroke
4|hop_bell
2|ngali_abbreviation_sign
9|nji
9|u_length_mark
8|currency_denominator_sixteen
17|numerator_four
27|one
30|_less_than_the_denominator
27|three
28|wo
8|digit_eight
14|five
15|our
14|nine
14|one
14|seven
15|ix
14|three
15|wo
14|zero
8|ganda_mark
8|isshar
8|letter_a
16|a
16|i
16|u
15|ba
16|ha
15|ca
16|ha
15|da
16|da
17|ha
16|ha
15|e
15|ga
16|ha
15|ha
15|i
16|i
15|ja
16|ha
15|ka
16|ha
18|nda_ta
15|la
15|ma
15|na
16|ga
16|na
16|ya
15|o
15|pa
16|ha
15|ra
17|_with_lower_diagonal
23|middle_diagonal
16|ha
16|ra
15|sa
16|ha
16|sa
15|ta
16|ha
16|ta
17|ha
15|u
16|u
15|vedic_anusvara
16|ocalic_l
24|l
23|r
24|r
15|ya
16|ya
8|rupee_mark
14|sign
8|sandhi_mark
9|ign_anusvara
14|vagraha
13|candrabindu
13|nukta
13|virama
15|sarga
8|vowel_sign_aa
20|i
20|u
19|e
19|i
20|i
19|o
19|u
20|u
19|vocalic_l
28|l
27|r
28|r
3|t_arrow_pointing_downwards_then_north_east
4|o_box
3|zene_ring
12|_with_circle
2|t_symbol
3|ween
2|verage_box
1|haiksuki_danda
11|igit_eight
16|five
17|our
16|nine
16|one
16|seven
17|ix
16|three
17|wo
16|zero
11|ouble_danda
10|gap_filler-1
21|2
10|hundreds_unit_mark
10|letter_a
18|a
18|i
18|u
17|ba
18|ha
17|ca
18|ha
17|da
18|da
19|ha
18|ha
17|e
17|ga
18|ha
17|ha
17|i
18|i
17|ja
18|ha
17|ka
18|ha
17|la
17|ma
17|na
18|ga
18|na
18|ya
17|o
17|pa
18|ha
17|ra
17|sa
18|ha
18|sa
17|ta
18|ha
18|ta
19|ha
17|u
18|u
17|va
18|ocalic_l
25|r
26|r
17|ya
10|number_eight
22|y
17|fifty
19|ve
18|orty
19|ur
17|nine
21|ty
17|one
17|seven
22|ty
18|ix
20|ty
17|ten
18|hirty
19|ree
18|wenty
19|o
10|sign_anusvara
16|vagraha
15|candrabindu
15|virama
17|sarga
10|vowel_sign_aa
22|i
22|u
21|e
21|i
22|i
21|o
21|u
22|u
21|vocalic_l
29|r
30|r
10|word_separator
1|icycle
6|ist
2|g_reverse_solidus
4|solidus
2|kini
2|lled_cap
4|iards
2|ohazard_sign
2|rd
3|thday_cake
2|son
2|tcoin_sign
3|ing_lip
1|lack-feathered_north_east_arrow
16|rightwards_arrow
16|south_east_arrow
6|letter_capital_c
21|h
21|i
21|r
21|z
5|_bowtie
6|centre_white_star
7|hess_bishop
18|_rotated_ninety_degrees
27|two_hundred_seventy_degrees
12|equihopper
22|_rotated_ninety_degrees
12|king
16|_rotated_ninety_degrees
25|two_hundred_seventy_degrees
13|night
18|-bishop
19|queen
19|rook
18|_rotated_forty-five_degrees
27|ninety_degrees
27|one_hundred_thirty-five_degrees
27|three_hundred_fifteen_degrees
28|wo_hundred_seventy_degrees
39|twenty-five_degrees
12|pawn
16|_rotated_ninety_degrees
25|two_hundred_seventy_degrees
12|queen
17|_rotated_ninety_degrees
26|two_hundred_seventy_degrees
12|rook
16|_rotated_ninety_degrees
25|two_hundred_seventy_degrees
12|turned_bishop
19|king
20|night
19|pawn
19|queen
19|rook
7|ircle
12|_for_record
13|with_down_arrow
18|two_white_dots
18|white_dot_right
7|lub_suit
7|ross_on_shield
7|urved_downwards_and_leftwards_arrow
27|rightwards_arrow
13|leftwards_and_downwards_arrow
27|upwards_arrow
13|rightwards_and_downwards_arrow
28|upwards_arrow
13|upwards_and_leftwards_arrow
25|rightwards_arrow
6|diamond
13|_centred
14|minus_white_x
14|on_cross
14|suit
14|with_down_arrow
7|own-pointing_double_triangle
20|isosceles_right_triangle
20|small_triangle
20|triangle
10|_pointing_backhand_index
10|wards_equilateral_arrowhead
7|raughts_king
15|man
8|oplet
6|flag
8|orette
7|older
8|ur_pointed_star
6|hard_shell_floppy_disk
7|eart
11|_suit
8|xagon
7|orizontal_ellipse
8|urglass
6|large_circle
12|square
7|eft-pointing_double_triangle
35|_with_vertical_bar
20|isosceles_right_triangle
20|pointer
20|small_triangle
20|triangle
10|_lane_merge
11|pointing_backhand_index
20|index
10|wards_bullet
16|equilateral_arrowhead
7|ower_left_triangle
12|right_triangle
8|zenge
6|medium_diamond
14|own-pointing_triangle
35|_centred
13|left-pointing_triangle
35|_centred
14|ozenge
13|right-pointing_triangle
36|_centred
13|small_diamond
19|lozenge
19|square
14|quare
13|up-pointing_triangle
33|_centred
7|oon_lilith
6|nib
6|octagon
6|parallelogram
7|ennant
9|tagon
7|ushpin
6|question_mark_ornament
6|rectangle
7|ight-pointing_double_triangle
36|_with_vertical_bar
21|isosceles_right_triangle
21|pentagon
22|ointer
21|small_triangle
21|triangle
29|_with_double_vertical_bar
11|_pointing_backhand_index
21|index
11|wards_arrow
22|head
17|bullet
17|equilateral_arrowhead
7|osette
6|safety_scissors
7|cissors
7|hogi_piece
7|kull_and_crossbones
7|lightly_small_circle
21|square
7|mall_diamond
12|lozenge
12|square
13|tar
8|iling_face
7|nowman
7|pade_suit
7|quare
12|_button
13|centred
13|for_stop
7|tar
7|un_with_rays
6|telephone
7|iny_diamond
11|lozenge
11|square
7|ouchtone_telephone
7|ruck
7|wo-way_left_way_traffic
6|universal_recycling_symbol
7|p-pointing_double_triangle
18|isosceles_right_triangle
18|small_triangle
18|triangle
8|_pointing_backhand_index
8|per_left_triangle
12|right_triangle
8|wards_equilateral_arrowhead
6|vertical_ellipse
15|rectangle
9|y_small_diamond
17|lozenge
17|square
3|nk_symbol
2|ock_sextant-1
15|2
16|3
17|4
18|5
18|6
17|5
18|6
17|6
16|4
17|5
18|6
17|6
16|5
17|6
16|6
15|3
16|4
17|5
18|6
17|6
16|56
16|6
15|4
16|5
17|6
16|6
15|5
16|6
15|6
14|2
15|3
16|4
17|5
18|6
17|6
16|5
17|6
16|6
15|4
16|5
17|6
15|5
16|6
15|6
14|3
15|4
16|5
17|6
16|6
15|5
16|6
15|6
14|4
15|5
16|6
15|6
14|5
15|6
14|6
3|ssom
3|wfish
2|ue_book
5|heart
4|berries
1|oar
2|ld_eight_spoked_asterisk
5|five_spoked_asterisk
5|greek_cross
5|saltire
6|ix_spoked_asterisk
5|white_circle
11|square
2|m
3|b
2|ne
2|ok
4|mark
8|_tabs
4|s
3|merang
2|pomofo_final_letter_g
22|h
22|k
22|p
22|t
9|letter_a
17|h
17|i
18|nn
17|m
17|n
18|g
18|n
17|u
18|nn
16|b
17|u
16|c
17|h
16|d
16|e
17|e
17|h
17|i
17|n
18|g
18|n
17|r
16|f
16|g
17|h
17|n
17|u
17|w
16|h
16|i
17|h
17|m
17|nn
19|n
17|r
17|u
16|j
17|i
16|k
17|w
16|l
17|h
16|m
16|n
17|g
18|g
17|n
16|o
17|_with_dot_above
17|e
17|m
17|ng
18|n
17|o
17|u
16|p
16|q
16|r
16|s
17|h
16|t
16|u
17|nn
16|v
16|x
16|z
17|h
17|i
17|y
2|ttle_with_popping_cork
4|om_arc_anticlockwise_arrow
7|curly_bracket
7|half_black_circle
12|integral
12|left_parenthesis
12|right_parenthesis
7|left_corner
13|rop
12|half_bracket
7|parenthesis
7|right_corner
14|rop
13|half_bracket
7|square_bracket
21|_over_top_square_bracket
7|tortoise_shell_bracket
2|uquet
7|_of_flowers
2|w_and_arrow
3|l_of_hygieia
5|with_spoon
4|ing
3|tie
6|_with_left_half_black
12|right_half_black
2|x_drawings_double_down_and_horizontal
29|left
29|right
20|horizontal
20|up_and_horizontal
27|left
27|right
20|vertical
28|_and_horizontal
33|left
33|right
15|wn_double_and_horizontal_single
29|left_single
29|right_single
18|heavy_and_horizontal_light
28|left_light
33|up_light
28|right_light
34|up_light
28|up_horizontal_light
18|light_and_horizontal_heavy
28|left_heavy
33|up_heavy
28|right_heavy
34|up_heavy
28|up_horizontal_heavy
18|single_and_horizontal_double
29|left_double
29|right_double
13|heavy_double_dash_horizontal
31|vertical
21|wn
23|_and_horizontal
28|left
28|right
19|horizontal
19|left
23|_and_light_right
19|quadruple_dash_horizontal
34|vertical
19|right
19|triple_dash_horizontal
31|vertical
19|up
21|_and_horizontal
26|left
27|ight_down
26|right
19|vertical
27|_and_horizontal
32|left
32|right
13|left_down_heavy_and_right_up_light
18|heavy_and_right_down_light
34|up_light
34|vertical_light
18|light_and_right_down_heavy
34|up_heavy
34|vertical_heavy
18|up_heavy_and_right_down_light
14|ight_arc_down_and_left
32|right
23|up_and_left
30|right
19|diagonal_cross
28|diamond
28|middle_left_to_lower_centre
55|_to_middle_right
43|upper_centre_to_middle_right
71|_to_lower_centre
35|right_to_lower_centre
44|upper_centre_to_middle_left_to_lower_centre
28|upper_centre_to_middle_left
55|_and_middle_right_to_lower_centre
56|to_lower_centre
71|_to_middle_right
51|right
56|_and_middle_left_to_lower_centre
57|to_lower_centre
72|_to_middle_left
34|left_to_lower_right
34|right_to_lower_left
20|ouble_dash_horizontal
31|vertical
21|wn
23|_and_horizontal
28|left
28|right
19|horizontal
29|_with_vertical_stroke
19|left
23|_and_heavy_right
19|quadruple_dash_horizontal
34|vertical
19|right
19|triple_dash_horizontal
31|vertical
19|up
21|_and_heavy_down
27|orizontal
26|left
26|right
19|vertical
27|_and_horizontal
32|left
32|right
13|right_down_heavy_and_left_up_light
19|heavy_and_left_down_light
34|up_light
34|vertical_light
19|light_and_left_down_heavy
34|up_heavy
34|vertical_heavy
19|up_heavy_and_left_down_light
13|up_double_and_horizontal_single
27|left_single
27|right_single
16|heavy_and_down_horizontal_light
26|horizontal_light
26|left_down_light
31|light
26|right_down_light
32|light
16|light_and_down_horizontal_heavy
26|horizontal_heavy
26|left_down_heavy
31|heavy
26|right_down_heavy
32|heavy
16|single_and_horizontal_double
27|left_double
27|right_double
13|vertical_double_and_horizontal_single
33|left_single
33|right_single
22|heavy_and_horizontal_light
32|left_light
32|right_light
22|light_and_horizontal_heavy
32|left_heavy
32|right_heavy
22|single_and_horizontal_double
33|left_double
33|right_double
3|ing_glove
2|y
3|s_symbol
1|ph
1|rahmi_danda
8|igit_eight
13|five
14|our
13|nine
13|one
13|seven
14|ix
13|three
14|wo
13|zero
8|ouble_danda
7|letter_a
15|a
15|i
15|u
14|ba
15|ha
14|ca
15|ha
14|da
15|da
16|ha
15|ha
14|e
14|ga
15|ha
14|ha
14|i
15|i
14|ja
15|ha
14|ka
15|ha
14|la
15|la
14|ma
14|na
15|ga
15|na
15|ya
14|o
15|ld_tamil_lla
26|la
24|nnna
24|rra
24|short_e
30|o
14|pa
15|ha
14|ra
14|sa
15|ha
15|sa
14|ta
15|ha
15|ta
16|ha
14|u
15|u
14|va
15|ocalic_l
23|l
22|r
23|r
14|ya
7|number_eight
19|y
14|fifty
16|ve
15|orty
16|ur
14|joiner
14|nine
18|ty
14|one
17|_hundred
18|thousand
14|seven
19|ty
15|ix
17|ty
14|ten
15|hirty
16|ree
15|wenty
16|o
7|punctuation_crescent_bar
19|dot
21|uble_dot
19|line
20|otus
7|sign_anusvara
12|candrabindu
12|jihvamuliya
12|old_tamil_virama
12|upadhmaniya
12|visarga
7|virama
8|owel_sign_aa
19|i
19|u
18|bhattiprolu_aa
18|e
18|i
19|i
18|o
19|ld_tamil_short_e
34|o
18|u
19|u
18|vocalic_l
27|l
26|r
27|r
3|ille_pattern_blank
16|dots-1
22|2
23|3
24|4
25|5
26|6
27|7
28|8
27|8
26|7
27|8
26|8
25|6
26|7
27|8
26|8
25|7
26|8
25|8
24|5
25|6
26|7
27|8
26|8
25|7
26|8
25|8
24|6
25|7
26|8
25|8
24|7
25|8
24|8
23|4
24|5
25|6
26|7
27|8
26|8
25|7
26|8
25|8
24|6
25|7
26|8
25|8
24|7
25|8
24|8
23|5
24|6
25|7
26|8
25|8
24|7
25|8
24|8
23|6
24|7
25|8
24|8
23|7
24|8
23|8
22|3
23|4
24|5
25|6
26|7
27|8
26|8
25|7
26|8
25|8
24|6
25|7
26|8
25|8
24|7
25|8
24|8
23|5
24|6
25|7
26|8
25|8
24|7
25|8
24|8
23|6
24|7
25|8
24|8
23|7
24|8
23|8
22|4
23|5
24|6
25|7
26|8
25|8
24|7
25|8
24|8
23|6
24|7
25|8
24|8
23|7
24|8
23|8
22|5
23|6
24|7
25|8
24|8
23|7
24|8
23|8
22|6
23|7
24|8
23|8
22|7
23|8
22|8
21|2
22|3
23|4
24|5
25|6
26|7
27|8
26|8
25|7
26|8
25|8
24|6
25|7
26|8
25|8
24|7
25|8
24|8
23|5
24|6
25|7
26|8
25|8
24|7
25|8
24|8
23|6
24|7
25|8
24|8
23|7
24|8
23|8
22|4
23|5
24|6
25|7
26|8
25|8
24|7
25|8
24|8
23|6
24|7
25|8
24|8
23|7
24|8
23|8
22|5
23|6
24|7
25|8
24|8
23|7
24|8
23|8
22|6
23|7
24|8
23|8
22|7
23|8
22|8
21|3
22|4
23|5
24|6
25|7
26|8
25|8
24|7
25|8
24|8
23|6
24|7
25|8
24|8
23|7
24|8
23|8
22|5
23|6
24|7
25|8
24|8
23|7
24|8
23|8
22|6
23|7
24|8
23|8
22|7
23|8
22|8
21|4
22|5
23|6
24|7
25|8
24|8
23|7
24|8
23|8
22|6
23|7
24|8
23|8
22|7
23|8
22|8
21|5
22|6
23|7
24|8
23|8
22|7
23|8
22|8
21|6
22|7
23|8
22|8
21|7
22|8
21|8
4|n
2|ead
4|k_permitted_here
4|st-feeding
3|ve
2|ick
3|de_with_veil
4|ge_at_night
3|efcase
5|s
2|occoli
3|ken_bar
7|circle_with_northwest_arrow
7|heart
3|om
3|wn_heart
1|s
1|ubble_tea
6|s
2|cket
2|g
3|inese_end_of_section
9|letter_a
16|ba
16|ca
16|da
16|ga
16|ha
16|ja
16|ka
16|la
16|ma
17|pa
16|na
17|ga
18|ka
17|ra
17|ya
18|ca
16|pa
16|ra
16|sa
16|ta
16|va
16|ya
9|pallawa
9|vowel_sign_ae
20|e
20|i
20|o
20|u
2|hid_letter_a
13|ba
13|da
13|ga
13|ha
13|i
13|ka
13|la
13|ma
13|na
14|ga
13|pa
13|ra
13|sa
13|ta
13|u
13|wa
13|ya
6|vowel_sign_i
17|u
2|ilding_construction
2|llet
6|_operator
4|horn
8|_with_sound_waves
4|seye
2|rrito
2|s
3|_stop
3|t_in_silhouette
4|s_in_silhouette
2|tter
6|fly
1|yte_order_mark
2|zantine_musical_symbol_agogi_argi
34|oteri
31|gorgi
35|oteri
31|mesi
33|tria
31|poli_argi
36|gorgi
26|natrichisma
27|tikenokylisma
33|ma
26|peso_ekfonitikon
32|xo_neo
27|li
27|oderma_archaion
34|neo
28|strofoi_syndesmos_neo
36|telous_ichimatos
34|s
35|_dipli
36|neo
28|thema
26|rgon
29|syntheton
27|ktiko_di
33|ga
33|ke
33|ni
33|pa
33|vou
33|zo
25|chamili
31|on
27|orevma_archaion
34|neo
27|roa_kliton
31|spathi
31|zygos
25|daseia
26|iargon
28|stoli_apli_megali
40|ikri
34|dipli
34|theseos
27|esis_apli_dyo_dodekata
32|digrammos_ex_dodekata
32|monogrammos_tessera_dodekata
32|tetartimorion
33|rigrammos_okto_dodekata
35|timorion
27|ftoggos_ou
27|gorgon
33|_parestigmenon_aristera_ano
57|kato
48|dexia
28|ramma_gg
27|pli
30|_archaion
26|yo
25|ekstrepton
26|lafron
26|narxis_kai_fthora_vou
27|dofonon
26|pegerma
26|teron_argosyntheton
32|parakalesma
26|xo_ekfonitikon
25|fanerosis_difonias
35|monofonias
35|tetrafonias
26|htora_skliron_chroma_vasis
26|thora_archaion
40|_deyterou_ichou
32|diatoniki_di
42|ke
42|nana
43|i_ano
45|kato
42|pa
42|zo
32|enarmonios_antifonia
32|i_yfesis_tetartimorion
32|malakon_chroma_difonias
47|monofonias
32|naos_ichos
33|enano
32|skliron_chroma_synafi
47|vasis
40|diatonon_di
25|geniki_diesis
32|yfesis
26|orgon_archaion
32|neo_ano
36|kato
32|parestigmenon_aristera
46|dexia
30|syntheton
28|thmikon_n_aploun
38|diploun
26|ronthismata
25|ichadin
26|midiargon
28|fonon
29|thora
33|on
26|sakia_telous_ichimatos
27|on_archaion
30|neo
25|katava_tromikon
31|sma
28|histi
26|entima_archaion
33|neo_ano
37|kato
37|meso
32|ta
34|_archaion
35|neo_ano
39|kato
39|meso
26|lasma
31|_ano
32|kato
26|ontevma
33|_allo
27|ronis
27|ufisma
26|ratima_allo
34|rchaion
33|neo
32|ta
31|okoufisma
32|yporroon
27|emasti
26|ylisma
25|leimma_dyo_chronon
32|enos_chronou
32|imiseos_chronou
32|tessaron_chronon
33|rion_chronon
27|moi
26|ygisma
25|martyria_alli_deyteros_ichos
39|protos_ichos
34|deyteros_ichos
34|legetos_ichos
34|plagios_ichos
42|tetartos_ichos
35|rotos_ichos
39|varys_ichos
34|tetartos_ichos
43|legetos_ichos
35|rifonias
37|tos_ichos
34|varys_ichos
26|ikron_ison
25|nana
25|oligon_archaion
32|neo
26|malon
26|xeia_dipli
31|ekfonitikon
31|neo
30|i_archaion
26|yranisma_archaion
35|neo
25|parakalesma_archaion
37|neo
30|litiki
36|_archaion
37|neo
28|ichon
26|elaston
33|_neo
27|rispomeni
27|tasma
30|ti
31|okoufisma
26|iasma_archaion
32|neo
26|sifistolygisma
33|n
34|_neo
33|parakalesma
33|synagma
28|li
29|on
25|rapisma
26|evma
25|saximata
26|eisma
31|_neo
26|imansis_arseos
40|_disimou
41|tetrasimou
42|risimou
34|theseos
41|_disimou
42|tetrasimou
43|risimou
26|tavros
32|_apodexia
27|igma
27|raggismata
26|ynagma_archaion
33|meta_stavrou
33|neo
28|evma
27|rma
30|tiki
25|teleia
27|ssera
27|trapli
26|hema
30|_aploun
30|tismos_eso
38|xo
28|s_kai_apothes
27|ita
26|inagma
26|ria
28|gorgon
28|pli
27|omikolygisma
32|n_allo
35|rchaion
34|neo
32|parakalesma
33|sifiston
32|synagma
25|vareia_dipli
32|ekfonitikon
32|neo
31|i_archaion
27|thy
25|xiron_klasma
25|yfen_ano
30|kato
28|sis_apli_dyo_dodekata
32|digrammos_ex_dodekata
32|monogrammos_tessera_dodekata
32|trigrammos_okto_dodekata
35|timorion
26|pokrisis
34|_dipli
28|rroi
27|sili
0|cactus
2|da_una
3|uceus
2|lendar
3|l_me_hand
2|mera
6|_with_flash
3|ping
2|n
3|adian_syllabics_a
20|a
21|i
21|y
20|i
21|vilik_b
20|n
20|thapascan_m
30|s
20|y
19|beaver_dene_l
31|r
20|ible-cree_y
20|lackfoot_a
29|e
29|i
29|ka
30|e
30|i
30|o
29|na
30|e
30|i
30|o
29|o
29|s
29|w
30|a
30|e
30|i
30|o
19|c
20|a
21|a
22|i
21|rrier_cha
29|e
30|e
29|i
29|o
29|u
27|dee
29|ne_gee
30|tal_s
28|i
28|la
29|e
30|e
29|i
29|o
29|u
28|za
29|e
30|e
29|i
29|o
29|u
27|ee
27|ga
29|a
28|e
29|e
28|ha
29|e
30|e
29|i
29|o
29|u
28|i
28|o
28|u
28|wa
29|u
27|h
28|ee
28|i
28|wa
29|e
30|e
29|i
29|o
29|u
27|i
28|nitial_z
27|ja
28|e
29|e
28|i
28|ja
29|e
30|e
29|i
29|o
29|u
28|o
28|u
28|wa
27|kha
29|e
30|e
29|i
29|o
29|u
28|k
29|a
29|e
30|e
29|i
29|o
29|u
27|la
28|e
29|e
28|ha
29|e
30|e
29|i
29|o
29|u
28|i
28|o
28|u
27|ma
28|e
29|e
28|i
28|o
28|u
27|na
28|e
29|e
28|g
28|i
28|o
28|u
27|p
28|a
28|e
29|e
28|i
28|o
28|u
27|ra
28|e
29|e
28|i
28|o
28|u
27|sa
28|e
29|e
28|h
29|a
29|e
30|e
29|i
29|o
29|u
28|i
28|o
28|u
27|tha
29|e
30|e
29|i
29|o
29|u
28|la
29|e
30|e
29|ha
30|e
31|e
30|i
30|o
30|u
29|i
29|o
29|u
28|sa
29|e
30|e
29|i
29|o
29|u
28|ta
29|e
30|e
29|i
29|o
29|sa
30|e
31|e
30|i
30|o
30|u
29|u
27|wa
28|e
29|e
28|i
28|o
28|u
27|ya
28|e
29|e
28|i
28|o
28|u
27|z
28|a
28|e
29|e
28|i
28|o
28|u
20|e
20|hi_sign
20|i
21|i
20|o
21|o
20|wa
22|a
21|e
21|i
22|i
21|o
22|o
19|e
20|astern_w
20|n
19|f
20|a
21|a
22|i
20|e
20|i
21|i
21|nal_acute
25|bottom_half_ring
25|double_acute
32|short_vertical_strokes
27|wn_tack
25|grave
25|middle_dot
25|plus
25|raised_dot
26|ight_half_ring
27|ng
25|short_horizontal_stroke
26|mall_ring
25|top_half_ring
20|o
21|o
20|ull_stop
20|waa
19|glottal_stop
19|hk
20|yphen
19|i
20|i
20|n
19|k
20|a
21|a
22|i
21|y
20|e
20|i
21|i
20|o
21|o
20|w
21|a
22|a
22|y
21|e
21|i
22|i
21|o
22|o
19|l
20|a
21|a
22|i
21|y
20|e
20|h
21|a
22|a
21|i
22|i
21|o
22|o
20|i
21|i
20|o
21|o
20|wa
22|a
21|e
21|i
22|i
21|o
22|o
19|m
20|a
21|a
22|i
21|y
20|e
21|dial_l
26|r
20|h
20|i
21|i
20|o
21|o
22|se-cree_sk
20|wa
22|a
21|e
21|i
22|i
21|o
22|o
19|n
20|-cree_the
28|i
29|i
20|a
21|a
22|i
21|skapi_cwaa
27|kwaa
27|mwaa
27|nwaa
27|s-w
28|cwa
28|kw
30|a
28|pwa
28|twa
28|waa
27|twaa
27|waa
28|oo
27|ywaa
21|ttilik_ha
30|a
29|i
30|i
29|o
30|o
28|shra
32|a
31|i
32|i
31|o
32|o
21|y
20|e
20|g
21|a
22|a
23|i
22|i
21|i
22|i
21|o
22|o
20|h
20|i
21|i
20|ng
22|a
23|a
22|i
23|i
22|o
23|o
20|o
21|o
21|y
20|unavik_h
28|a
29|a
28|e
28|i
29|i
28|o
29|o
24|ut_h
20|wa
22|a
21|e
21|i
22|i
21|o
22|o
19|o
20|jibway_c
27|k
27|m
27|n
28|wi
30|i
29|o
30|o
27|p
27|s
28|h
27|t
20|n
20|o
20|y
19|p
20|a
21|a
22|i
21|y
20|e
20|i
21|i
20|o
21|o
21|y
20|wa
22|a
21|e
21|i
22|i
21|o
22|o
22|y
19|q
20|a
21|a
22|i
21|i
20|i
21|i
20|o
21|o
19|r
20|-cree_re
27|we
20|a
21|a
22|i
21|y
20|e
20|i
21|i
20|o
21|o
20|wa
22|a
21|ee
21|i
22|i
21|o
22|o
19|s
20|a
21|a
22|i
21|y
22|isi_ha
27|e
27|i
27|o
28|o
26|ji
27|u
28|u
26|m
26|sha
28|e
28|i
28|o
29|o
28|we
26|th
26|yi
20|e
20|h
21|a
22|a
22|y
21|e
21|i
22|i
21|o
22|o
22|y
21|wa
23|a
22|e
22|i
23|i
22|o
23|o
23|y
20|i
21|i
20|o
21|o
21|uth-slavey_kah
33|eh
33|ih
33|oh
21|y
20|pa
21|e
21|i
21|o
20|w
21|a
22|a
21|e
21|i
22|i
21|o
22|o
19|t
20|a
21|a
22|i
21|y
20|e
20|h
21|-cree_th
29|a
30|a
29|e
29|i
30|i
29|o
30|o
21|a
22|a
21|e
21|i
22|i
21|o
22|o
21|wa
23|a
22|e
20|i
21|i
20|lha
22|e
22|i
22|o
23|o
22|we
20|o
21|o
20|ta
21|e
21|h
22|a
23|a
22|e
22|i
22|o
23|o
22|we
21|i
21|o
20|wa
22|a
21|e
21|i
22|i
21|o
22|o
20|ya
21|e
21|i
21|o
19|wa
21|a
21|y
20|e
21|st-cree_cwa
32|a
31|e
31|i
32|i
31|o
32|o
29|fwaa
29|kwa
32|a
31|e
31|i
32|i
31|o
32|o
29|l
30|a
31|a
30|e
30|o
31|o
30|wa
32|a
31|e
31|i
32|i
31|o
32|o
29|m
30|wa
32|a
31|e
31|i
32|i
31|o
32|o
29|nwa
32|a
31|e
29|p
30|wa
32|a
31|e
31|i
32|i
31|o
32|o
29|r
30|a
30|e
30|i
30|o
30|waa
29|shwa
33|a
32|e
32|i
33|i
32|o
33|o
30|wa
32|a
31|e
31|i
32|i
31|o
32|o
29|thwaa
30|wa
32|a
31|e
31|i
32|i
31|o
32|o
29|wa
31|a
30|e
30|i
31|i
30|o
31|o
29|y
30|wa
32|a
31|e
31|i
32|i
31|o
32|o
23|ern_w
20|i
21|i
20|o
21|o
22|ds-cree_final_th
30|th
32|a
32|e
32|i
32|o
32|wa
34|a
33|ee
33|i
34|i
33|o
34|o
19|y
20|-cree_coo
26|koo
26|loo
26|moo
26|noo
26|oo
26|poo
27|waa
26|soo
26|too
26|w
26|yoo
20|a
21|a
22|i
21|y
20|e
20|i
21|i
20|o
21|o
21|y
20|wa
22|a
21|e
21|i
22|i
21|o
22|o
3|cel
6|_character
7|tag
6|lation_x
5|r
3|dle
4|y
3|ned_food
3|oe
2|pitulum
3|ricorn
2|r_sliding
3|d_file_box
5|index
10|_dividers
3|e_of
4|t
5|_insertion_point
3|ian_letter_a
15|2
14|b
14|c-18
16|39
14|d
15|2
14|e
15|2
14|g
15|2
14|i
15|i
14|k
15|2
14|l
15|d
16|2
14|m
15|b
16|2
16|3
16|4
14|n
15|d
15|g
15|n
14|o
14|p
15|2
14|q
14|r
15|r
14|s
15|h
16|2
15|s
15|t
16|2
14|t
15|t
16|2
14|u
15|u
16|u
17|2
17|3
17|u
14|x
3|on
4|usel_horse
3|p_streamer
4|entry_saw
3|riage_return
4|ot
2|stle
2|t
3|_face
8|_with_tears_of_joy
14|wry_smile
2|ucasian_albanian_citation_mark
19|letter_alt
27|or
26|bet
26|car
28|yn
27|ha
29|t
28|i
28|oy
27|yaw
29|y
26|dat
27|yan
27|zay
28|yay
26|eb
27|yn
26|fam
26|gheys
27|im
26|heyt
26|inya
27|rb
27|wn
26|jayn
27|hox
26|kar
27|iw
26|lan
27|yit
26|maq
26|nowc
26|on
26|pen
27|iwr
26|qar
28|y
26|rat
26|seyk
27|ha
29|k
28|oy
26|tas
27|iwr
27|yay
26|veyz
26|xeyn
26|yayd
27|owd
26|zarl
27|ha
28|il
3|tion_sign
1|ch
1|edi_sign
4|lla
2|ltic_cross
2|nt_sign
4|re_line_symbol
6|line_low_line
11|overline
2|res
1|gj
1|hains
4|r
3|kma_au_mark
7|danda
8|igit_eight
13|five
14|our
13|nine
13|one
13|seven
14|ix
13|three
14|wo
13|zero
8|ouble_danda
7|letter_aa
14|baa
15|haa
14|caa
15|haa
14|daa
15|daa
16|haa
15|haa
14|e
14|gaa
15|haa
14|haa
14|i
14|jaa
15|haa
14|kaa
15|haa
14|laa
15|haa
14|maa
14|naa
15|gaa
15|naa
15|yaa
14|paa
15|haa
14|raa
14|saa
14|taa
15|haa
15|taa
16|haa
14|u
14|vaa
14|waa
14|yaa
15|yaa
7|maayyaa
7|o_mark
7|question_mark
7|section_mark
8|ign_anusvara
12|candrabindu
12|visarga
7|virama
8|owel_sign_a
19|a
19|i
19|u
18|e
19|i
18|i
19|i
18|o
19|i
18|u
19|u
3|m_consonant_sign_final_h
26|m
26|ng
20|la
20|ra
20|wa
20|ya
5|digit_eight
11|five
12|our
11|nine
11|one
11|seven
12|ix
11|three
12|wo
11|zero
5|letter_a
13|i
12|ba
13|ba
13|ha
12|cha
14|ha
12|da
13|da
13|ha
12|e
12|final_ch
18|g
18|k
18|l
18|n
19|g
18|p
18|r
18|ss
18|t
18|y
12|ga
13|ha
12|ha
12|i
12|ja
13|ha
12|ka
13|ha
12|la
12|ma
13|ue
12|na
13|ga
14|ue
13|ha
14|ja
14|ue
13|ue
12|o
12|pa
13|ha
13|pa
12|ra
12|sa
13|sa
12|ta
13|ha
12|u
12|va
12|ya
5|punctuation_danda
18|ouble_danda
17|spiral
17|triple_danda
5|vowel_sign_aa
17|i
17|u
16|ei
16|i
17|i
16|o
17|e
16|u
17|e
3|racter_tabulation
20|_set
21|with_justification
11|ie
4|t_with_downwards_trend
11|upwards_trend
24|_and_yen_sign
2|eck_mark
5|er_board
13|_fill
3|ering_megaphone
4|se_wedge
3|quered_flag
3|rokee_letter_a
16|da
17|e
17|i
17|la
17|o
17|u
17|v
16|e
16|ga
17|e
17|i
17|o
17|u
17|v
16|ha
17|e
17|i
17|na
17|o
17|u
17|v
16|i
16|ka
16|la
17|e
17|i
17|o
17|u
17|v
16|ma
17|e
17|i
17|o
17|u
17|v
16|na
18|h
17|e
17|i
17|o
17|u
17|v
16|o
16|qua
18|e
18|i
18|o
18|u
18|v
16|s
17|a
17|e
17|i
17|o
17|u
17|v
16|ta
17|e
17|i
17|la
18|e
18|i
18|o
18|u
18|v
17|sa
18|e
18|i
18|o
18|u
18|v
16|u
16|v
16|wa
17|e
17|i
17|o
17|u
17|v
16|ya
17|e
17|i
17|o
17|u
17|v
9|small_letter_a
22|da
23|e
23|i
23|la
23|o
23|u
23|v
22|e
22|ga
23|e
23|i
23|o
23|u
23|v
22|ha
23|e
23|i
23|na
23|o
23|u
23|v
22|i
22|ka
22|la
23|e
23|i
23|o
23|u
23|v
22|ma
23|e
23|i
23|o
23|u
23|v
22|na
24|h
23|e
23|i
23|o
23|u
23|v
22|o
22|qua
24|e
24|i
24|o
24|u
24|v
22|s
23|a
23|e
23|i
23|o
23|u
23|v
22|ta
23|e
23|i
23|la
24|e
24|i
24|o
24|u
24|v
23|sa
24|e
24|i
24|o
24|u
24|v
22|u
22|v
22|wa
23|e
23|i
23|o
23|u
23|v
22|ya
23|e
23|i
23|o
23|u
23|v
4|ries
5|y_blossom
3|stnut
2|i_rho
3|cken
3|ld
5|ren_crossing
3|pmunk
3|ron
2|ocolate_bar
3|psticks
3|rasmian_letter_aleph
19|yin
18|beth
18|curled_waw
18|daleth
18|gimel
18|he
20|th
18|kaph
18|lamedh
18|mem
18|nun
18|pe
18|resh
18|samekh
19|hin
19|mall_aleph
18|taw
18|waw
18|yodh
18|zayin
11|number_four
18|one
21|_hundred
18|ten
19|hree
19|wenty
20|o
2|ristmas_tree
2|urch
1|inema
2|rcle_divided_by_horizontal_bar_and_top_half_divided_by_vertical_bar
7|with_all_but_upper_left_quadrant_black
12|horizontal_bar
12|left_half_black
13|ower_half_black
12|right_half_black
12|small_circle_to_the_right
13|uperimposed_x
12|two_horizontal_strokes_to_the_right
12|upper_half_black
18|right_quadrant_black
12|vertical_fill
6|d_anticlockwise-rotated_division_sign
21|_arrow
9|sterisk_operator
8|bold_x
9|ullet
8|c_with_overlaid_backslash
9|c
9|d
9|ross_formee
20|_with_four_dots
26|two_dots
14|pommee
13|ing_lanes
8|dash
9|igit_eight
14|five
15|our
14|nine
14|one
14|seven
15|ix
14|three
15|wo
14|zero
10|vision_sign
18|lash
9|ollar_sign_with_overlaid_backslash
10|t_operator
8|equals
8|greater-than
8|hangul_chieuch
22|_a
16|ieuc
20|_a
15|hieuh
20|_a
15|ieung
20|_a
21|u
15|khieukh
22|_a
16|iyeok
21|_a
15|mieum
20|_a
15|nieun
20|_a
15|phieuph
22|_a
16|ieup
20|_a
15|rieul
20|_a
15|sios
19|_a
15|thieuth
22|_a
16|ikeut
21|_a
9|eavy_white_rightwards_arrow
9|orizontal_bar_with_notch
9|uman_figure
8|ideograph_accept
19|dvantage
19|lliance
19|ttention
18|centre
19|ongratulation
20|py
20|rrect
18|earth
19|ight
19|nterprise
19|xcellent
18|female
19|inancial
20|re
20|ve
19|our
18|have
19|igh
18|item
18|kindergarten
19|oto
18|labor
19|eft
19|ow
18|male
19|edicine
20|tal
19|oon
18|name
19|ight
20|ne
18|one
18|print
18|question
18|religion
20|source
21|t
19|ight
18|school
19|ecret
20|ven
19|ix
19|ociety
19|pecial
19|tock
20|udy
19|uitable
20|n
20|pervise
18|ten
19|hree
19|wo
18|water
19|ood
9|nformation_source
9|talic_latin_capital_letter_c
36|r
8|katakana_a
17|e
17|ha
18|e
18|i
18|o
18|u
17|i
17|ka
18|e
18|i
18|o
18|u
17|ma
18|e
18|i
18|o
18|u
17|na
18|e
18|i
18|o
18|u
17|o
17|ra
18|e
18|i
18|o
18|u
17|sa
18|e
18|i
18|o
18|u
17|ta
18|e
18|i
18|o
18|u
17|u
17|wa
18|e
18|i
18|o
17|ya
18|o
18|u
9|orean_character_chamko
25|jueui
8|latin_capital_letter_a
29|b
29|c
29|d
29|e
29|f
29|g
29|h
29|i
29|j
29|k
29|l
29|m
29|n
29|o
29|p
29|q
29|r
29|s
29|t
29|u
29|v
29|w
29|x
29|y
29|z
14|small_letter_a
27|b
27|c
27|d
27|e
27|f
27|g
27|h
27|i
27|j
27|k
27|l
27|m
27|n
27|o
27|p
27|q
27|r
27|s
27|t
27|u
27|v
27|w
27|x
27|y
27|z
9|ess-than
8|minus
9|ultiplication_sign_with_circumflex_accent
8|number_eighteen
20|y_on_black_square
16|leven
15|fifteen
19|y
20|_on_black_square
16|orty
20|_eight
21|five
22|our
21|nine
21|on_black_square
23|e
21|seven
22|ix
21|three
22|wo
17|urteen
15|nineteen
15|seventeen
21|y_on_black_square
16|ixteen
19|y_on_black_square
15|ten
18|_on_black_square
16|hirteen
20|y
21|_eight
22|five
23|our
22|nine
22|on_black_square
24|e
22|seven
23|ix
22|three
23|wo
16|welve
18|nty
21|_eight
22|five
23|our
22|nine
22|on_black_square
24|e
22|seven
23|ix
22|three
23|wo
8|open_centre_eight_pointed_star
8|parallel
9|erpendicular
9|lus
9|ostal_mark
8|reverse_solidus
9|ing_operator
8|square
8|times
9|riangle
16|_down
8|vertical_bar
8|white_bullet
14|star
9|z
8|x
8|zero_with_slash
4|ulation_function
5|mflex_accent
5|s_tent
2|tyscape
9|_at_dusk
1|jk_compatibility_ideograph-2f800
32|1
32|2
32|3
32|4
32|5
32|6
32|7
32|8
32|9
32|a
32|b
32|c
32|d
32|e
32|f
31|10
32|1
32|2
32|3
32|4
32|5
32|6
32|7
32|8
32|9
32|a
32|b
32|c
32|d
32|e
32|f
31|20
32|1
32|2
32|3
32|4
32|5
32|6
32|7
32|8
32|9
32|a
32|b
32|c
32|d
32|e
32|f
31|30
32|1
32|2
32|3
32|4
32|5
32|6
32|7
32|8
32|9
32|a
32|b
32|c
32|d
32|e
32|f
31|40
32|1
32|2
32|3
32|4
32|5
32|6
32|7
32|8
32|9
32|a
32|b
32|c
32|d
32|e
32|f
31|50
32|1
32|2
32|3
32|4
32|5
32|6
32|7
32|8
32|9
32|a
32|b
32|c
32|d
32|e
32|f
31|60
32|1
32|2
32|3
32|4
32|5
32|6
32|7
32|8
32|9
32|a
32|b
32|c
32|d
32|e
32|f
31|70
32|1
32|2
32|3
32|4
32|5
32|6
32|7
32|8
32|9
32|a
32|b
32|c
32|d
32|e
32|f
31|80
32|1
32|2
32|3
32|4
32|5
32|6
32|7
32|8
32|9
32|a
32|b
32|c
32|d
32|e
32|f
31|90
32|1
32|2
32|3
32|4
32|5
32|6
32|7
32|8
32|9
32|a
32|b
32|c
32|d
32|e
32|f
31|a0
32|1
32|2
32|3
32|4
32|5
32|6
32|7
32|8
32|9
32|a
32|b
32|c
32|d
32|e
32|f
31|b0
32|1
32|2
32|3
32|4
32|5
32|6
32|7
32|8
32|9
32|a
32|b
32|c
32|d
32|e
32|f
31|c0
32|1
32|2
32|3
32|4
32|5
32|6
32|7
32|8
32|9
32|a
32|b
32|c
32|d
32|e
32|f
31|d0
32|1
32|2
32|3
32|4
32|5
32|6
32|7
32|8
32|9
32|a
32|b
32|c
32|d
32|e
32|f
31|e0
32|1
32|2
32|3
32|4
32|5
32|6
32|7
32|8
32|9
32|a
32|b
32|c
32|d
32|e
32|f
31|f0
32|1
32|2
32|3
32|4
32|5
32|6
32|7
32|8
32|9
32|a
32|b
32|c
32|d
32|e
32|f
30|900
32|1
32|2
32|3
32|4
32|5
32|6
32|7
32|8
32|9
32|a
32|b
32|c
32|d
32|e
32|f
31|10
32|1
32|2
32|3
32|4
32|5
32|6
32|7
32|8
32|9
32|a
32|b
32|c
32|d
32|e
32|f
31|20
32|1
32|2
32|3
32|4
32|5
32|6
32|7
32|8
32|9
32|a
32|b
32|c
32|d
32|e
32|f
31|30
32|1
32|2
32|3
32|4
32|5
32|6
32|7
32|8
32|9
32|a
32|b
32|c
32|d
32|e
32|f
31|40
32|1
32|2
32|3
32|4
32|5
32|6
32|7
32|8
32|9
32|a
32|b
32|c
32|d
32|e
32|f
31|50
32|1
32|2
32|3
32|4
32|5
32|6
32|7
32|8
32|9
32|a
32|b
32|c
32|d
32|e
32|f
31|60
32|1
32|2
32|3
32|4
32|5
32|6
32|7
32|8
32|9
32|a
32|b
32|c
32|d
32|e
32|f
31|70
32|1
32|2
32|3
32|4
32|5
32|6
32|7
32|8
32|9
32|a
32|b
32|c
32|d
32|e
32|f
31|80
32|1
32|2
32|3
32|4
32|5
32|6
32|7
32|8
32|9
32|a
32|b
32|c
32|d
32|e
32|f
31|90
32|1
32|2
32|3
32|4
32|5
32|6
32|7
32|8
32|9
32|a
32|b
32|c
32|d
32|e
32|f
31|a0
32|1
32|2
32|3
32|4
32|5
32|6
32|7
32|8
32|9
32|a
32|b
32|c
32|d
32|e
32|f
31|b0
32|1
32|2
32|3
32|4
32|5
32|6
32|7
32|8
32|9
32|a
32|b
32|c
32|d
32|e
32|f
31|c0
32|1
32|2
32|3
32|4
32|5
32|6
32|7
32|8
32|9
32|a
32|b
32|c
32|d
32|e
32|f
31|d0
32|1
32|2
32|3
32|4
32|5
32|6
32|7
32|8
32|9
32|a
32|b
32|c
32|d
32|e
32|f
31|e0
32|1
32|2
32|3
32|4
32|5
32|6
32|7
32|8
32|9
32|a
32|b
32|c
32|d
32|e
32|f
31|f0
32|1
32|2
32|3
32|4
32|5
32|6
32|7
32|8
32|9
32|a
32|b
32|c
32|d
32|e
32|f
30|a00
32|1
32|2
32|3
32|4
32|5
32|6
32|7
32|8
32|9
32|a
32|b
32|c
32|d
32|e
32|f
31|10
32|1
32|2
32|3
32|4
32|5
32|6
32|7
32|8
32|9
32|a
32|b
32|c
32|d
28|f900
31|1
31|2
31|3
31|4
31|5
31|6
31|7
31|8
31|9
31|a
31|b
31|c
31|d
31|e
31|f
30|10
31|1
31|2
31|3
31|4
31|5
31|6
31|7
31|8
31|9
31|a
31|b
31|c
31|d
31|e
31|f
30|20
31|1
31|2
31|3
31|4
31|5
31|6
31|7
31|8
31|9
31|a
31|b
31|c
31|d
31|e
31|f
30|30
31|1
31|2
31|3
31|4
31|5
31|6
31|7
31|8
31|9
31|a
31|b
31|c
31|d
31|e
31|f
30|40
31|1
31|2
31|3
31|4
31|5
31|6
31|7
31|8
31|9
31|a
31|b
31|c
31|d
31|e
31|f
30|50
31|1
31|2
31|3
31|4
31|5
31|6
31|7
31|8
31|9
31|a
31|b
31|c
31|d
31|e
31|f
30|60
31|1
31|2
31|3
31|4
31|5
31|6
31|7
31|8
31|9
31|a
31|b
31|c
31|d
31|e
31|f
30|70
31|1
31|2
31|3
31|4
31|5
31|6
31|7
31|8
31|9
31|a
31|b
31|c
31|d
31|e
31|f
30|80
31|1
31|2
31|3
31|4
31|5
31|6
31|7
31|8
31|9
31|a
31|b
31|c
31|d
31|e
31|f
30|90
31|1
31|2
31|3
31|4
31|5
31|6
31|7
31|8
31|9
31|a
31|b
31|c
31|d
31|e
31|f
30|a0
31|1
31|2
31|3
31|4
31|5
31|6
31|7
31|8
31|9
31|a
31|b
31|c
31|d
31|e
31|f
30|b0
31|1
31|2
31|3
31|4
31|5
31|6
31|7
31|8
31|9
31|a
31|b
31|c
31|d
31|e
31|f
30|c0
31|1
31|2
31|3
31|4
31|5
31|6
31|7
31|8
31|9
31|a
31|b
31|c
31|d
31|e
31|f
30|d0
31|1
31|2
31|3
31|4
31|5
31|6
31|7
31|8
31|9
31|a
31|b
31|c
31|d
31|e
31|f
30|e0
31|1
31|2
31|3
31|4
31|5
31|6
31|7
31|8
31|9
31|a
31|b
31|c
31|d
31|e
31|f
30|f0
31|1
31|2
31|3
31|4
31|5
31|6
31|7
31|8
31|9
31|a
31|b
31|c
31|d
31|e
31|f
29|a00
31|1
31|2
31|3
31|4
31|5
31|6
31|7
31|8
31|9
31|a
31|b
31|c
31|d
31|e
31|f
30|10
31|1
31|2
31|3
31|4
31|5
31|6
31|7
31|8
31|9
31|a
31|b
31|c
31|d
31|e
31|f
30|20
31|1
31|2
31|3
31|4
31|5
31|6
31|7
31|8
31|9
31|a
31|b
31|c
31|d
31|e
31|f
30|30
31|1
31|2
31|3
31|4
31|5
31|6
31|7
31|8
31|9
31|a
31|b
31|c
31|d
31|e
31|f
30|40
31|1
31|2
31|3
31|4
31|5
31|6
31|7
31|8
31|9
31|a
31|b
31|c
31|d
31|e
31|f
30|50
31|1
31|2
31|3
31|4
31|5
31|6
31|7
31|8
31|9
31|a
31|b
31|c
31|d
31|e
31|f
30|60
31|1
31|2
31|3
31|4
31|5
31|6
31|7
31|8
31|9
31|a
31|b
31|c
31|d
30|70
31|1
31|2
31|3
31|4
31|5
31|6
31|7
31|8
31|9
31|a
31|b
31|c
31|d
31|e
31|f
30|80
31|1
31|2
31|3
31|4
31|5
31|6
31|7
31|8
31|9
31|a
31|b
31|c
31|d
31|e
31|f
30|90
31|1
31|2
31|3
31|4
31|5
31|6
31|7
31|8
31|9
31|a
31|b
31|c
31|d
31|e
31|f
30|a0
31|1
31|2
31|3
31|4
31|5
31|6
31|7
31|8
31|9
31|a
31|b
31|c
31|d
31|e
31|f
30|b0
31|1
31|2
31|3
31|4
31|5
31|6
31|7
31|8
31|9
31|a
31|b
31|c
31|d
31|e
31|f
30|c0
31|1
31|2
31|3
31|4
31|5
31|6
31|7
31|8
31|9
31|a
31|b
31|c
31|d
31|e
31|f
30|d0
31|1
31|2
31|3
31|4
31|5
31|6
31|7
31|8
31|9
4|radical_bamboo
13|lue
13|olt_of_cloth
14|ne
14|x
13|rush_one
18|two
12|c-simplified_bird
25|cart
25|dragon
25|eat
26|ven
25|fish
26|ly
26|rog
25|gate
26|old
25|horse
25|leaf
26|ong
25|salt
26|ee
26|hell
26|ilk
26|peech
25|tanned_leather
26|ooth
26|urtle
25|wind
13|hoke
13|ity
14|vilian
13|liff
14|othes
13|ow
12|death
13|ivination
13|og
12|eat_one
16|three
17|wo
13|we
13|ye
12|fire
13|oot
12|ghost
13|rass_one
18|three
19|wo
12|hand
13|ead
15|rt_one
18|two
13|orn
12|j-simplified_dragon
25|even
25|tooth
26|urtle
13|ade
12|knife_one
18|two
12|lame_four
17|one
17|three
18|wo
13|ong_one
17|two
12|meat
14|sh
13|oon
14|rtar
14|ther
14|und_one
18|two
12|net_four
16|one
16|three
17|wo
12|old
12|paw_one
16|two
13|erson
12|rain
14|m
14|p
13|epeat
12|seal
14|cond_one
19|three
20|wo
13|heep
13|ilk
14|mplified_half_tree_trunk
24|orn
23|walk
24|heat
23|yellow
13|mall_one
18|two
13|nake
14|out_one
18|two
13|pirit_one
19|two
13|un
12|table
13|hread
13|iger
13|urtle
12|walk_one
17|two
14|ter_one
18|two
13|est_one
17|two
4|stroke_bxg
11|d
11|h
12|g
12|p
13|wg
12|xwg
12|z
13|g
13|t
13|w
14|g
13|z
14|p
14|z
15|g
11|n
11|p
12|d
12|g
12|z
11|q
11|s
12|g
12|p
12|t
12|w
13|g
13|z
12|z
13|wg
13|z
11|t
12|n
11|wg
11|xg
1|lamshell_mobile_phone
3|pper_board
5|ing_hands_sign
3|ssical_building
2|ear_screen_symbol
2|inking_beer_mugs
9|glasses
3|pboard
2|ock_face_eight-thirty
16|_oclock
12|leven-thirty
17|_oclock
11|five-thirty
15|_oclock
12|our-thirty
15|_oclock
11|nine-thirty
15|_oclock
11|one-thirty
14|_oclock
11|seven-thirty
16|_oclock
12|ix-thirty
14|_oclock
11|ten-thirty
14|_oclock
12|hree-thirty
16|_oclock
12|welve-thirty
17|_oclock
13|o-thirty
14|_oclock
5|wise_closed_circle_arrow
11|ontour_integral
10|downwards_and_upwards_open_circle_arrows
10|gapped_circle_arrow
10|integral
10|open_circle_arrow
10|right_and_left_semicircle_arrows
15|wards_and_leftwards_open_circle_arrows
53|_with_circled_one_overlay
10|top_semicircle_arrow
11|riangle-headed_open_circle_arrow
3|se_up
5|d_book
7|intersection_with_serifs
7|lock_with_key
7|mailbox_with_lowered_flag
20|raised_flag
7|subset
13|_or_equal_to
9|perset
15|_or_equal_to
7|umbrella
8|nion_with_serifs
24|_and_smash_product
3|ud
5|_with_lightning
11|rain
11|snow
11|tornado
3|wn_face
1|oat
2|ckroach
4|tail_glass
3|onut
2|ffin
2|in
2|llision_symbol
3|on
5|_equals
6|sign
2|mbining_acute-grave-acute
16|macron
15|_accent
22|_below
16|tone_mark
11|lmost_equal_to_above
26|below
11|nnuity_symbol
12|ticlockwise_arrow_above
24|ring_overlay
11|sterisk_above
19|below
10|bindu_below
11|reve
15|-macron
15|_below
12|idge_above
17|below
10|candrabindu
12|ron
15|_below
11|edilla
11|ircumflex_accent
27|_below
11|lockwise_arrow_above
20|ring_overlay
11|omma_above
21|_right
16|below
12|njoining_macron
27|_below
11|yrillic_dasia_pneumata
19|hundred_millions_sign
27|thousands_sign
19|kavyka
19|letter_a
26|be
27|ig_yus
26|che
26|de
27|jerv
26|ef
27|l
27|m
27|n
27|r
27|s
28|-te
26|fita
26|ghe
26|ha
28|rd_sign
26|i
27|e
27|otified_a
35|big_yus
35|e
26|ka
26|little_yus
26|monograph_uk
26|o
27|mega
26|pe
26|sha
28|cha
27|oft_sign
26|te
27|se
26|u
27|krainian_ie
26|ve
26|yat
27|eru
27|i
27|u
26|ze
27|he
19|millions_sign
19|palatalization
21|yerok
20|okrytie
20|sili_pneumata
19|ten_millions_sign
20|housand_millions_sign
20|itlo
24|_left_half
25|right_half
19|vzmet
10|deletion_mark
12|vanagari_digit_eight
27|five
28|our
27|nine
27|one
27|seven
28|ix
27|three
28|wo
27|zero
21|letter_a
28|ka
28|na
28|pa
28|ra
28|u
28|vi
21|sign_avagraha
11|iaeresis
19|-ring
19|_below
11|ot_above
19|_left
20|right
14|below
19|_left
13|ted_acute_accent
17|grave_accent
12|uble_acute_accent
17|breve
22|_below
17|circumflex_above
17|grave_accent
17|inverted_breve
31|_below
17|low_line
17|macron
23|_below
17|open_mark_below
18|verline
17|parentheses_above
18|lus_sign_above
27|below
17|rightwards_arrow_below
19|ng_below
17|tilde
22|_left_half
23|right_half
17|vertical_line_above
31|below
26|stroke_overlay
16|d_circumflex_accent
12|wn_tack_below
14|wards_arrow
10|enclosing_circle
26|_backslash
20|diamond
20|keycap
20|screen
21|quare
20|upward_pointing_triangle
11|quals_sign_below
10|fermata
11|our_dots_above
10|glagolitic_letter_azu
28|big_yus
29|uky
28|chrivi
28|djervi
29|obro
28|fita
29|ritu
28|glagoli
28|heru
28|i
29|nitial_izhe
29|otated_big_yus
36|small_yus
29|zhe
28|kako
28|ljudije
28|myslite
28|nashi
28|onu
28|pokoji
28|ritsi
28|sha
30|ta
29|lovo
29|mall_yus
28|tsi
29|vrido
28|uku
28|vede
28|yati
29|eri
31|u
30|stu
29|o
29|u
28|zemlja
29|hivete
11|rantha_digit_five
25|our
24|one
24|six
24|three
25|wo
24|zero
18|letter_a
25|ka
25|na
25|pa
25|vi
13|pheme_joiner
13|ve-acute-grave
16|macron
15|_accent
22|_below
16|tone_mark
12|eek_dialytika_tonos
16|koronis
16|musical_pentaseme
24|tetraseme
25|riseme
16|perispomeni
16|ypogegrammeni
10|homothetic_above
12|ok_above
12|rn
10|infinity
12|verted_breve
24|_below
21|idge_below
19|double_arch_above
31|below
11|s_below
10|katakana-hiragana_semi-voiced_sound_mark
28|voiced_sound_mark
12|vyka_above_left
23|right
10|latin_letter_small_capital_g
37|l
37|m
37|n
37|r
16|small_letter_a
30|_with_diaeresis
30|e
30|lpha
30|o
30|v
29|b
30|eta
29|c
30|_cedilla
29|d
29|e
30|sh
30|th
29|f
30|lattened_open_a_above
29|g
29|h
29|i
30|nsular_d
37|g
37|r
37|t
29|k
29|l
30|_with_double_middle_tilde
30|ong_s
29|m
29|n
29|o
30|_with_diaeresis
36|light_centralization_stroke
29|p
29|r
30|_below
31|rotunda
29|s
30|chwa
29|t
30|urned_w_below
29|u
30|_with_diaeresis
36|light_centralization_stroke
29|v
29|w
30|_below
29|x
29|z
11|eft_angle_above
21|below
16|rrow_above
21|below
20|head_above
25|below
15|half_ring_above
25|below
17|rpoon_above
15|parenthesis_above_left
27|below_left
15|right_arrow_above
27|below
15|tack_below
14|wards_arrow_overlay
20|harpoon_with_barb_downwards
11|igature_left_half
28|_below
19|right_half
29|_below
13|ht_centralization_stroke_below
11|ong_double_solidus_overlay
15|solidus_overlay
16|troke_overlay
15|vertical_line_overlay
12|w_line
10|macron
16|-acute
17|breve
17|grave
16|_below
17|left_half
26|_below
17|right_half
27|_below
11|inus_sign_below
10|not_tilde_above
11|umber_sign_above
10|ogonek
16|_above
11|ld_permic_letter_an
28|doi
28|nenoe
28|sii
28|zata
11|pen_mark_below
11|verline
10|palatalized_hook_below
12|rentheses_above
22|below
22|overlay
11|lus_sign_above
20|below
10|retroflex_hook_below
12|verse_solidus_overlay
17|d_comma_above
11|ight_arrow_above
22|below
21|head_above
27|nd_down_arrowhead_below
30|up_arrowhead_below
26|below
16|half_ring_above
26|below
18|rpoon_above
16|parenthesis_above_right
28|below_right
16|tack_below
15|wards_harpoon_with_barb_downwards
12|ng_above
15|below
15|overlay
10|seagull_below
11|hort_solidus_overlay
17|troke_overlay
16|vertical_line_overlay
11|nake_below
11|quare_below
18|rackets_above
11|trong_centralization_stroke_below
11|uspension_mark
10|three_dots_above
11|ilde
15|_below
16|left_half_below
16|overlay
16|right_half_below
11|riple_acute_accent
17|dot
17|underdot
11|urned_comma_above
10|up_tack_above
18|below
12|wards_arrow_below
11|r_above
11|s_above
10|vertical_line_above
24|below
19|tilde
10|wide_bridge_above
15|inverted_bridge_below
12|ggly_line_below
10|x-x_below
11|_above
12|below
10|zigzag_above
17|below
3|et
3|ma
4|ercial_at
11|minus_sign
3|pass
4|lement
4|osition_symbol
4|ression
2|nfetti_ball
4|ounded_face
4|used_face
3|gruent_with_dot_above
3|ical_taper
3|junction
3|struction_sign
13|worker
3|tains_as_member
12|normal_subgroup
27|_or_equal_to
9|with_long_horizontal_stroke
14|overbar
14|vertical_bar_at_end_of_horizontal_stroke
4|inuous_underline_symbol
4|our_integral
4|rol_knobs
8|sequence_introducer
3|venience_store
2|oked_rice
4|ie
5|ng
2|ptic_capital_letter_akhmimic_khei
23|lfa
22|bohairic_khei
22|crossed_shei
24|yptogrammic_eie
36|gangia
36|ni
36|shei
22|dalda
23|ei
23|ialect-p_alef
32|hori
32|kapa
32|ni
22|eie
22|fei
23|i
22|gamma
24|ngia
22|hate
23|ori
22|iauda
22|kapa
23|hei
24|i
23|si
22|l-shaped_ha
23|aula
22|mi
22|ni
22|o
23|ld_coptic_ain
33|dja
33|esh
33|gangia
33|ha
35|t
34|ei
34|ori
33|oou
33|shei
35|ima
26|nubian_ngi
34|yi
33|shima
33|wau
23|ou
22|pi
23|si
22|ro
22|sampi
23|hei
24|ima
23|ima
23|ou
22|tau
23|hethe
22|ua
22|vida
22|zata
8|ombining_ni_above
17|spiritus_asper
26|lenis
7|epact_digit_eight
19|five
20|our
19|nine
19|one
19|seven
20|ix
19|three
20|wo
13|number_eight_hundred
25|y
20|fifty
22|ve_hundred
21|orty
22|ur_hundred
20|nine_hundred
24|ty
20|one_hundred
20|seven_hundred
25|ty
21|ix_hundred
23|ty
20|ten
21|hirty
22|ree_hundred
21|wenty
22|o_hundred
13|thousands_mark
7|fraction_one_half
8|ull_stop
7|morphological_divider
7|old_nubian_direct_question_mark
18|full_stop
18|indirect_question_mark
18|verse_divider
7|small_letter_akhmimic_khei
21|lfa
20|bohairic_khei
20|crossed_shei
22|yptogrammic_eie
34|gangia
34|ni
34|shei
20|dalda
21|ei
21|ialect-p_alef
30|hori
30|kapa
30|ni
20|eie
20|fei
21|i
20|gamma
22|ngia
20|hate
21|ori
20|iauda
20|kapa
21|hei
22|i
21|si
20|l-shaped_ha
21|aula
20|mi
20|ni
20|o
21|ld_coptic_ain
31|dja
31|esh
31|gangia
31|ha
33|t
32|ei
32|ori
31|oou
31|shei
33|ima
24|nubian_ngi
32|yi
31|shima
31|wau
21|ou
20|pi
21|si
20|ro
20|sampi
21|hei
22|ima
21|ima
21|ou
20|tau
21|hethe
20|ua
20|vida
20|zata
8|ymbol_kai
15|hi_ro
14|mi_ro
14|pi_ro
14|shima_sima
15|tauros
14|tau_ro
3|yleft_symbol
4|right_sign
2|ral
3|nish_verse_divider
3|responds_to
2|uch_and_lamp
3|nterbore
7|sink
5|ing_rod_tens_digit_eight
24|five
25|our
24|nine
24|one
24|seven
25|ix
24|three
25|wo
13|unit_digit_eight
24|five
25|our
24|nine
24|one
24|seven
25|ix
24|three
25|wo
3|ple_with_heart
2|w
3|_face
1|r
2|ab
2|edit_card
3|scent_moon
2|icket
7|_bat_and_ball
2|ocodile
3|issant
3|ss_mark
6|of_jerusalem
9|lorraine
6|patty_with_left_crossbar
17|right_crossbar
7|ommee
12|_with_half-circle_below
5|ed_flags
8|negative_squared_latin_capital_letter_p
8|swords
5|ing_lanes
3|wn
2|utch
3|zeiro_sign
2|ying_cat_face
7|face
3|stal_ball
1|si
1|ube_root
2|cumber
2|neiform_numeric_sign_eight_ash
29|dish
29|gesh2
29|shar2
29|u
30|_variant_form
29|variant_form_ussu
46|3
24|lamite_fifty
32|orty
31|one_third
31|two_thirds
23|five_ash
31|_tenu
28|ban2
32|_variant_form
29|uru
28|dish
28|gesh2
32|u
28|shar2
32|u
29|ixths_dish
28|u
29|_variant_form
24|our_ash
31|_tenu
28|ban2
32|_variant_form
29|uru
28|dish
28|gesh2
32|u
28|shar2
32|u
28|u
29|_variant_form
28|variant_form_limmu
46|4
46|_a
47|b
23|nigidaesh
29|min
25|ne_ash
28|dish
28|gesh2
28|shar2
28|u
29|_variant_form
28|variant_form_ilimmu
47|3
47|4
47|_a
23|old_assyrian_one_quarter
40|sixth
24|ne_ban2
28|uru
27|eighth_ash
28|she3
27|gesh2
31|u
27|half_gur
27|quarter_ash
35|gur
27|sharu
27|third_dish
33|variant_form_a
23|seven_ash
29|dish
29|gesh2
29|shar2
29|u
30|_variant_form
29|variant_form_imin3
46|_a
47|b
24|har2_times_gal_plus_dish
44|min
24|ix_ash
30|_tenu
27|dish
27|gesh2
27|shar2
27|u
28|_variant_form
27|variant_form_ash9
23|three_ash
32|_tenu
29|ban2
30|uru
33|_variant_form
29|dish
29|gesh2
33|u
29|shar2
34|_variant_form
33|u
34|_variant_form
29|variant_form_esh16
45|21
24|wo_ash
30|_tenu
27|ban2
28|uru
27|eshe3
27|gesh2
31|u
27|shar2
31|u
27|thirds_dish
34|variant_form_a
10|punctuation_sign_diagonal_colon
36|quadcolon
36|tricolon
27|old_assyrian_word_divider
27|vertical_colon
10|sign_a
16|2
16|_times_a
23|bad
23|gan2_tenu
23|ha
23|igi
23|lagar_gunu
23|mush
23|sag
16|b
17|2
18|_times_a
25|balag
25|gan2_tenu
25|me_plus_en
25|sha3
25|tak4
17|_gunu
18|times_ash2
24|dun3_gunu
24|gal
26|n2_tenu
24|ha
24|igi_gunu
25|min
24|lagab
24|nun
27|_tenu
24|shesh
26|u2
24|u_plus_u_plus_u
16|d
17|_times_esh2
16|k
17|_times_erin2
24|shita_plus_gish
16|l
17|_times_al
24|dim2
24|gish
24|ha
24|kad3
25|i
24|she
24|ush
17|an
17|eph
16|mar
19|_times_kug
26|she
16|n
17|_over_an
18|plus_naga_opposing_an_plus_naga
28|squared
18|three_times
17|she
16|pin
16|rad
19|_times_kur
17|kab
16|sal2
17|h
18|2
18|_kaba_tenu
19|over_ash_over_ash
36|_crossing_ash_over_ash_over_ash
28|tug2_over_tug2_tug2_over_tug2_pap
19|zida_tenu
18|gab
15|ba
17|d
18|_times_dish_tenu
17|g3
17|har2
21|_times_ab2
28|ni
28|za
17|l
18|_over_bal
18|ag
17|r
18|a2
16|i
17|_times_a
24|gar
24|igi_gunu
16|u
17|_crossing_bu
18|over_bu_ab
26|times_na2
26|un
17|lug
20|_over_bulug
17|r
18|2
15|da
17|_times_tak4
17|g
18|3
18|_kisim5_times_a_plus_mash
33|mar
32|balag
33|i
32|ga
34|_plus_mash
33|i
34|r2
33|ud
32|ha
32|ir
34|_plus_lu
32|kak
32|la
33|u
34|_plus_mash2
34|m
32|ne
32|pap_plus_pap
32|si
32|tak4
32|u2_plus_gir2
40|mash
33|sh
19|times_kur
17|m
17|r
18|a3
19|4
16|i
17|b
17|m
18|2
19|_times_ud
18|_times_igi
25|she
25|u_u_u
17|n
18|_kaskal_u_gunu_dish
17|sh
19|_plus_shu
16|u
17|_gunu
18|over_du
18|sheshig
17|b
18|2
18|_times_esh2
25|she
17|g
18|_times_anshe
26|sh
28|_at_left
25|din
26|un
25|erin2
25|ga
26|i
27|r2_gunu
27|sh
25|ha
26|i
25|igi_gunu
25|kaskal
26|ur
27|shu2
31|_plus_kaskal
25|lak-020
27|m
28|_times_kur
26|uh_plus_gish
25|mash
26|es
26|i
25|ni
25|pi
25|she
26|i_gunu
18|ud
17|h
17|n
18|3
19|_gunu
24|_gunu
18|4
17|r2
15|e
16|2
17|_times_a_plus_ha_plus_da
24|gar
24|kur
24|mi
24|pap
24|sal
25|he
24|u
16|_over_e_nun_over_nun
17|times_pap
16|din
16|gir
16|l
16|n
17|_crossing_en
18|opposing_en
18|squared
18|times_gan2
28|_tenu
24|me
16|ren
17|in2
20|_x
16|sh2
19|_crossing_esh2
16|zen
19|_sheshig_times_ash
34|hi
34|igi_gunu
34|la
36|l
34|me
36|s
34|su
20|times_a
27|_plus_lal
36|_times_lal
27|n
26|bad
26|dun3_gunu
35|_gunu
26|gud
26|ha
28|_gunu
26|igi_gunu
26|kaskal
32|_squared
27|u3
26|la
28|l_times_lal
27|i
27|u
26|she
27|u
26|u2
27|d
15|ga
17|2
18|_over_ga2
19|times_a_plus_da_plus_ha
32|ha
32|igi
26|b2_tenu_plus_tab
26|n
27|_plus_kak_plus_a
26|sh
28|2
29|_plus_gal
25|bad
27|har2
27|r_plus_ra
26|ur
28|_plus_ra
25|da
26|i
27|m_gunu
29|times_she
26|ub
27|g_times_igi_gunu
35|kaskal
25|el
27|_plus_la
26|n
27|_times_gan2_tenu
26|ren
25|ga
27|n2_tenu
27|r
28|_plus_di
34|ne
26|i
27|4
28|_plus_a
27|r2_plus_su
25|ha_plus_a
33|lu_plus_esh2
27|l
28|_plus_la
26|i_plus_li
26|ub2
25|igi_gunu
26|sh_plus_hu_plus_ash
25|kak
27|skal
26|id
28|_plus_lal
26|u3_plus_an
27|shu2_plus_kaskal
25|la
27|m
28|_times_kur
26|uh
25|me_plus_en
26|i
26|ush
25|ne
27|_plus_e2
33|gi
26|un
28|_over_nun
25|pa
25|sal
27|r
26|he
28|_plus_tur
27|id
28|m
26|um
25|tak4
25|u
26|d
27|_plus_du
25|ziz2
17|_gunu
17|ba
19|_crossing_gaba
20|rotated_ninety_degrees
17|d
18|_over_gad_gar_over_gar
17|l
18|_gad_over_gad_gar_over_gar
18|am
17|m
17|n
18|2
19|_crossing_gan2
20|over_gan2
20|tenu
17|r
18|3
17|shan
16|e22
17|shtin
22|_times_kur
29|u
16|i
17|4
18|_crossing_gi4
19|over_gi4
17|_crossing_gi
18|times_e
24|u
17|dim
17|g
17|r2
19|_gunu
18|3
19|_times_a_plus_igi
26|gan2_tenu
26|igi
26|lu_plus_igi
26|pa
17|sal
18|h
19|_crossing_gish
20|tenu
21|imes_bad
26|gish_crossing_gish
26|tak4
16|u
17|2
18|_gunu
19|times_igi_gunu
25|kak
28|_times_igi_gunu
25|nun
25|sal_plus_tug2
17|_crossing_gu
17|d
18|_over_gud_lugal
19|plus_gish_times_tak4
19|times_a_plus_kur
25|kur
17|l
17|m
18|_times_she
17|r
18|7
18|un
19|sh
15|ha
17|_gunu
18|tenu
22|_gunu
17|l
16|i
17|_times_ash
27|2
27|_over_hi_times_ash
24|bad
24|dish
24|gad
24|kin
24|nun
24|she
24|u
16|u
17|b2
19|_times_an
26|hal
26|kaskal
26|lish
26|ud
17|l2
17|sh
15|i
16|_a
16|b
16|dim
19|_over_idim_bur
30|squared
16|g
17|i
18|_dib
19|gunu
19|over_igi_shir_over_shir_ud_over_ud
19|ri
16|l
17|2
17|_times_gan2_tenu
16|m
17|_crossing_im
18|opposing_im
18|squared
18|times_tak4
17|in
16|n
16|r
16|sh
15|ka
17|2
18|_crossing_ka2
17|_times_a
25|d
26|_plus_ku3
25|nshe
25|sh2
27|3
24|bad
26|lag
26|r
25|i
25|u
24|erin2
25|sh2
24|ga
26|l
26|n2_tenu
26|r
27|_plus_sha3_plus_a
25|i
26|r2
26|sh
28|_crossing_gish
29|plus_sar
25|u
26|d
26|r7
24|hi_times_ash2
24|igi
25|m
24|ka
26|k
25|i
26|d
24|li
25|u
26|m
24|me
26|_plus_du
32|gi
32|te
25|i
26|_plus_nunuz
24|ne
25|un
24|pa
25|i
24|ru
24|sa
26|r
25|ha
26|e
26|id
26|u
27|l
25|ig
25|uhur
24|tar
25|u
24|u
25|2
25|_u_u
25|d
25|mum_times_pa
25|r
26|2
25|sh
24|zi
17|b
17|d2
18|3
18|4
18|5
19|_over_kad5
17|k
18|_times_igi_gunu
17|l
18|_crossing_kal
19|times_bad
17|m2
18|4
17|p_elamite
17|skal
21|_lagab_times_u_over_lagab_times_u
22|over_kaskal_lagab_times_u_over_lagab_times_u
16|esh2
16|i
17|_times_bad
24|u
25|d
17|d
17|n
17|sal
18|h
18|im5
21|_over_kisim5
16|u
17|3
17|4
18|_variant_form
17|7
17|_over_hi_times_ash2_ku_over_hi_times_ash2
17|l
18|_gunu
17|n
17|r
18|_opposing_kur
17|shu2
16|wu318
15|la
17|gab
20|_squared
21|times_a
28|_plus_da_plus_ha
34|gar
34|lal
28|l
28|n
28|sh_zida_tenu
27|bad
28|i
27|dar
27|en
27|ga
29|r
28|i
28|ud
30|_plus_gud
27|ha
29|l
28|i_times_nun
27|igi_gunu
28|m
29|_plus_ha
35|lu
27|ki
29|n
28|u3
29|l
30|_plus_hi_plus_a
27|lagab
28|ish
28|u
29|l
27|me
29|_plus_en
28|ush
27|ne
27|she_plus_sum
29|ita_plus_gish_plus_erin2
43|tenu
29|u2
31|_plus_shu2
28|um
27|tag
29|k4
28|e_plus_a_plus_su_plus_na
27|u
28|2_plus_ash
28|_plus_a
34|u_plus_u
28|d
28|sh
27|zu_over_zu
19|r
20|_gunu
25|_over_lagar_gunu_she
21|times_she
30|_plus_sum
17|hshu
17|k-003
20|21
21|5
20|30
20|50
21|1
20|62
20|79_over_lak-079_gunu
20|80
21|1_over_lak-081
20|92
19|130
20|42
19|210
21|9
20|20
21|5
21|8
20|38
20|65
21|6
19|343
21|7
21|8
20|83
21|4
20|90
19|441
21|9
22|_times_gu
29|igi
29|pap_plus_lu3
38|pap_plus_lu3
29|u2_plus_ba
20|50
21|7
20|70
20|83
20|90
21|2
21|3
21|5
19|550
19|608
20|17
22|_times_ash
29|bad
29|dun3_gunu_gunu
29|ku3
29|la
29|tar
30|e
29|u2
30|d
30|ruda
20|36
20|48
22|_times_dub
29|ga
29|igi
32|_gunu
29|ni
29|pap_plus_pap_plus_lu3
29|shesh_plus_ki
29|ud
30|ruda
19|724
20|49
17|l
18|_times_lal
17|m
18|_times_kur
28|_plus_ru
16|i
17|l
17|mmu2
17|sh
16|u
17|2
18|_crossing_lu2
19|gunu_times_ash
19|opposing_lu2
19|sheshig
26|_times_bad
20|quared
19|tenu
20|imes_al
25|bad
25|dish
25|esh2
29|_plus_lal
30|tenu
25|gan2_tenu
25|hal
26|i_times_bad
25|im
25|kad2
28|3
29|_plus_ash
26|i
25|la_plus_ash
27|gab
25|me_plus_en
25|ne
26|u
25|pap
28|_plus_pap_plus_lu3
25|shu
26|i_plus_ash
27|k2_plus_bu
25|tak4
26|ug2
17|3
17|_times_bad
17|gal
20|_opposing_lugal
22|ver_lugal
21|sheshig
17|h
17|l
17|m
18|_over_lum
27|_gar_over_gar
15|ma
17|2
17|_gunu
18|times_tak4
17|h
17|r
17|sh
19|2
16|e
17|s
18|h
16|i
17|_plus_za7
17|n
16|u
17|_over_mu
17|g
18|_gunu
17|nsub
17|rgu2
17|sh
19|3
20|_gunu
21|times_a
28|_plus_di
27|di
27|za
19|_crossing_mush
20|over_mush
29|_times_a_plus_na
36|ga
36|kak
20|times_a
26|kur
26|za
15|na
17|2
17|4
17|ga
19|_inverted
20|opposing_naga
20|times_shu_tenu
19|r
17|m
18|2
18|_nutillu
16|e
17|_sheshig
18|times_a
24|ud
16|i
17|2
17|_times_e
17|m
18|_times_gan2_tenu
27|r_plus_gan2_tenu
17|n
18|9
18|da2
21|_times_an
29|sh
31|_plus_ash
28|bal
28|dim_gunu
28|gi
30|sh
29|ud
30|l
28|hi
28|kesh2
28|lak-050
28|mash
29|e_plus_gan2_tenu
28|ne
29|un
28|pap_plus_pap
28|she
31|_plus_a_an
38|sh
40|_plus_ash
28|u
29|2_plus_ash
29|_plus_u
29|ruda
29|sh
17|sag
16|u
17|11
19|_over_nu11_bur_over_bur
20|rotated_ninety_degrees
20|tenu
17|n
18|_crossing_nun
31|_lagar_over_lagar
19|lagar_times_gar
31|mash
31|sal
34|_over_nun_lagar_times_sal
31|ush
19|over_nun
19|tenu
18|uz
20|_ab2_times_ashgab
31|bi
31|dug
31|gud
31|igi_gunu
31|kad3
31|la
31|ne
31|sila3
31|u2
21|kisim5_times_bi
36|_u
15|pa
17|d
17|n
17|p
16|esh2
20|_asterisk
16|i
17|_crossing_pi
18|times_a
25|b
24|bi
25|u
24|e
24|i
25|b
24|u
25|2
17|r2
18|ig
20|_opposing_pirig
21|times_kal
27|ud
27|za
15|ra
17|b
16|i
16|u
15|sa
17|g
18|_gunu
23|_times_ha
19|nutillu
19|over_sag
19|times_a
25|du
27|b
25|en
25|ha
25|igi_gunu
25|kak
26|ur
25|lum
25|mi
25|nun
25|sal
26|he_at_left
27|id
25|tab
27|k4
25|u2
26|b
26|m
26|r
26|sh
17|l
18|_lagab_times_ash2
17|nga2
17|r
16|ha
18|3
19|_times_a
26|bad
26|gish
26|ne
26|shu2
26|tur
26|u
27|_plus_a
18|6
19|_tenu
18|b6
18|r2
17|e
18|_hu
19|over_she
27|_gad_over_gad_gar_over_gar
28|tab_over_tab_gar_over_gar
19|plus_hub2
24|nam2
24|sar
18|g9
18|n
18|sh
20|2
20|lam
17|id
19|_times_a
26|im
18|m
19|_times_a
26|bal
27|ulug
26|din
26|gar
26|igi
29|_gunu
26|kushu2
26|lul
26|mug
26|sal
18|nig
18|r
19|_over_shir_bur_over_bur
20|tenu
18|ta
17|u
18|2
19|_plus_dug_times_ni
25|e2_times_an
18|_over_inverted_shu
18|bur
16|i
17|_gunu
18|times_tak4
17|g
18|4
19|_over_sig4_shu2
17|k2
17|la3
16|u
17|_over_su
17|d
18|2
17|hur
17|m
18|ash
17|r
18|9
15|ta
17|_asterisk
18|gunu
18|times_hi
24|mi
17|b
18|_over_tab_ni_over_ni_dish_over_dish
19|squared
17|g
18|_times_bi
25|gud
25|she
27|u
25|tug2
25|ud
17|k4
19|_plus_sag
17|r
16|e
17|_gunu
16|i
17|2
17|_tenu
17|l
17|r
18|_over_tir
27|_gad_over_gad_gar_over_gar
19|times_tak4
16|u
17|g2
17|k
17|m
18|_times_gan2_tenu
25|three_dish
17|r
18|_over_tur_za_over_za
15|u
16|2
16|_gud
17|over_u_pa_over_pa_gar_over_gar
24|sur_over_sur
24|u_reversed_over_u_reversed
17|u
18|_u
16|b
16|d
17|_gunu
18|kushu2
18|sheshig
25|_times_bad
18|times_bad
24|mi
24|u_plus_u_plus_u
39|_gunu
17|ug
16|m
17|_times_lagab
24|me
26|_plus_da
24|sha3
24|u
17|bin
17|um
19|_times_kaskal
26|pa
16|n
17|_gunu
16|r
17|2
18|_inverted
19|times_a_plus_ha
32|na
26|l
25|ha
25|nun
25|u2
27|_plus_ash
33|bi
26|d
17|4
17|_crossing_ur
18|sheshig
17|i
18|3
17|u
18|_times_a
26|shgab
25|bar
25|dara3
26|un
25|ga
27|l
27|n2_tenu
27|r
26|u
25|ha
25|igi
26|m
26|sh
25|ki
25|lak-668
26|u3
27|m
25|min
25|pa
25|she
26|ig4
25|tu
25|u_plus_gud
26|d
26|ruda
18|da
20|_times_u
16|sh
18|2
18|_times_a
25|ku
27|r
25|tak4
18|umx
18|x
16|tuki
16|z3
18|_times_kaskal
17|u
15|za
17|7
17|_squared_times_kur
18|tenu
17|g
17|mx
16|e2
16|i
17|3
17|_over_zi
17|b
18|_kaba_tenu
17|g
17|z2
16|u
17|5
18|_times_a
25|three_dish_tenu
17|_over_zu_plus_sar
17|bur
17|m
2|p_on_black_square
4|with_straw
3|cake
3|ido
2|rling_stone
4|y_bracket_extension
6|logical_and
14|or
8|op
3|rency_exchange
9|sign
4|y_and_rice
3|ved_stem_paragraph_sign_ornament
2|stard
4|oms
2|t_of_meat
1|yclone
2|lindricity
2|priot_syllable_a
17|e
17|i
17|ja
18|o
17|ka
18|e
18|i
18|o
18|u
17|la
18|e
18|i
18|o
18|u
17|ma
18|e
18|i
18|o
18|u
17|na
18|e
18|i
18|o
18|u
17|o
17|pa
18|e
18|i
18|o
18|u
17|ra
18|e
18|i
18|o
18|u
17|sa
18|e
18|i
18|o
18|u
17|ta
18|e
18|i
18|o
18|u
17|u
17|wa
18|e
18|i
18|o
17|xa
18|e
17|za
18|o
4|o-minoan_sign_cm001
22|2
22|4
22|5
22|6
22|7
22|8
22|9
21|10
22|1
22|2
23|b
22|3
22|5
22|7
22|9
21|21
22|3
22|4
22|5
22|6
22|7
22|8
22|9
21|30
22|3
22|4
22|5
22|6
22|7
22|8
22|9
21|40
22|1
22|4
22|6
22|7
22|9
21|50
22|1
22|2
22|3
22|4
22|5
22|6
22|8
22|9
21|60
22|1
22|2
22|3
22|4
22|6
22|7
22|8
22|9
21|70
22|1
22|2
22|3
22|4
22|5
23|b
22|6
22|8
22|9
21|80
22|1
22|2
22|3
22|4
22|5
22|6
22|7
22|8
22|9
21|90
22|1
22|2
22|4
22|5
22|6
22|7
22|8
22|9
20|100
22|1
22|2
22|3
22|4
22|5
22|7
22|8
22|9
21|10
22|2
22|4
20|301
22|2
2|rillic_capital_letter_a
25|_with_breve
31|diaeresis
25|bkhasian_che
37|_with_descender
34|dze
34|ha
25|leut_ka
24|barred_o
32|_with_diaeresis
26|shkir_ka
25|e
25|ig_yus
26|nocular_o
25|lended_yus
25|road_omega
25|yelorussian-ukrainian_i
24|cche
25|he
27|_with_descender
34|iaeresis
33|vertical_stroke
25|losed_little_yus
25|rossed_o
24|dche
25|e
25|je
27|rv
25|ouble_monocular_o
31|o
25|we
25|ze
27|lo
26|he
26|we
26|ze
27|he
24|e
25|_with_diaeresis
25|f
25|l
26|_with_descender
32|hook
32|middle_hook
32|tail
25|m
26|_with_tail
25|n
26|_with_descender
32|hook
32|left_hook
32|middle_hook
32|tail
25|r
26|_with_tick
25|s
26|_with_descender
24|fita
24|ghe
27|_with_descender
33|middle_hook
33|stroke
39|_and_hook
33|upturn
25|je
24|ha
26|_with_descender
32|hook
32|stroke
26|rd_sign
25|we
24|i
25|_with_diaeresis
31|grave
31|macron
25|e
26|_with_breve
32|grave
25|o
26|ta
27|ified_a
33|big_yus
33|closed_little_yus
33|e
33|little_yus
33|yat
25|zhitsa
31|_with_double_grave_accent
24|je
24|ka
26|_with_descender
32|hook
32|stroke
32|vertical_stroke
25|hakassian_che
25|je
25|omi_de
30|je
30|zje
29|lje
29|nje
29|sje
29|tje
29|zje
26|ppa
25|si
24|lha
25|ittle_yus
25|je
24|monocular_o
28|graph_uk
24|neutral_yer
25|je
24|o
25|_with_diaeresis
25|mega
29|_with_titlo
25|t
24|pe
26|_with_descender
32|middle_hook
25|si
24|qa
24|reversed_dze
33|tse
33|yu
33|ze
25|ha
25|ound_omega
24|schwa
29|_with_diaeresis
25|emisoft_sign
25|ha
26|cha
26|ha
28|_with_descender
26|ort_i
31|_with_tail
30|u
26|we
25|oft_de
29|el
30|m
29|sign
25|traight_u
34|_with_stroke
24|tche
25|e
26|_with_descender
32|middle_hook
25|se
26|he
26|se
26|we
25|we
24|u
25|_with_diaeresis
32|ouble_acute
31|macron
25|k
26|rainian_ie
24|ve
24|we
24|ya
26|e
26|t
25|eru
28|_with_back_yer
34|diaeresis
25|i
25|n
25|u
24|ze
26|_with_descender
33|iaeresis
26|mlya
25|he
27|_with_breve
33|descender
34|iaeresis
26|we
18|igature_a_ie
26|en_ghe
26|te_tse
9|kavyka
9|letter_multiocular_o
16|palochka
16|small_capital_el
9|payerok
9|small_letter_a
23|_with_breve
29|diaeresis
23|bkhasian_che
35|_with_descender
32|dze
32|ha
23|leut_ka
22|barred_o
30|_with_diaeresis
24|shkir_ka
23|e
23|ig_yus
24|nocular_o
23|lended_yus
23|road_omega
23|yelorussian-ukrainian_i
22|cche
23|he
25|_with_descender
32|iaeresis
31|vertical_stroke
23|losed_little_yus
23|rossed_o
22|dche
23|e
23|je
25|rv
23|ouble_monocular_o
29|o
23|we
23|ze
25|lo
24|he
24|we
24|ze
25|he
22|e
23|_with_diaeresis
23|f
23|l
24|_with_descender
30|hook
30|middle_hook
30|tail
23|m
24|_with_tail
23|n
24|_with_descender
30|hook
30|left_hook
30|middle_hook
30|tail
23|r
24|_with_tick
23|s
24|_with_descender
22|fita
22|ghe
25|_with_descender
31|middle_hook
31|stroke
37|_and_hook
31|upturn
23|je
22|ha
24|_with_descender
30|hook
30|stroke
24|rd_sign
23|we
22|i
23|_with_diaeresis
29|grave
29|macron
23|e
24|_with_breve
30|grave
23|o
24|ta
25|ified_a
31|big_yus
31|closed_little_yus
31|e
31|little_yus
31|yat
23|zhitsa
29|_with_double_grave_accent
22|je
22|ka
24|_with_descender
30|hook
30|stroke
30|vertical_stroke
23|hakassian_che
23|je
23|omi_de
28|je
28|zje
27|lje
27|nje
27|sje
27|tje
27|zje
24|ppa
23|si
22|lha
23|ittle_yus
23|je
23|ong-legged_de
22|monocular_o
26|graph_uk
22|narrow_o
23|eutral_yer
23|je
22|o
23|_with_diaeresis
23|mega
27|_with_titlo
23|t
22|palochka
23|e
24|_with_descender
30|middle_hook
23|si
22|qa
22|reversed_dze
31|tse
31|yu
31|ze
23|ha
23|ound_omega
27|ed_ve
22|schwa
27|_with_diaeresis
23|emisoft_sign
23|ha
24|cha
24|ha
26|_with_descender
24|ort_i
29|_with_tail
28|u
24|we
23|oft_de
27|el
28|m
27|sign
23|traight_u
32|_with_stroke
22|tall_hard_sign
27|te
27|yat
23|che
23|e
24|_with_descender
30|middle_hook
23|hree-legged_te
23|se
24|he
24|se
24|we
23|we
22|u
23|_with_diaeresis
30|ouble_acute
29|macron
23|k
24|rainian_ie
23|nblended_uk
22|ve
22|we
23|ide_es
22|ya
24|e
24|t
23|eru
26|_with_back_yer
32|diaeresis
23|i
23|n
23|u
22|ze
24|_with_descender
31|iaeresis
24|mlya
23|he
25|_with_breve
31|descender
32|iaeresis
24|we
16|igature_a_ie
24|en_ghe
24|te_tse
9|thousands_sign
0|dagger
6|_knife
7|with_left_guard
12|right_guard
2|let_symbol
2|ncer
3|go
2|rk_shade
6|unglasses
2|sh_symbol
5|with_left_upturn
4|ed_low_line
7|overline
7|triangle-headed_rightwards_arrow
2|ta_link_escape
1|c1
2|2
2|3
2|4
2|s
1|eaf_person
2|ciduous_tree
4|mal_exponent_symbol
8|separator_key_symbol
3|rease_font_size_symbol
2|er
2|gree_celsius
7|fahrenheit
7|sign
2|l
3|ete
3|ivery_truck
3|ta_equal_to
2|ntistry_symbol_light_down_and_horizontal
42|_with_circle
48|triangle
48|wave
23|up_and_horizontal
40|_with_circle
46|triangle
46|wave
23|vertical_and_bottom_left
43|right
36|top_left
40|right
36|wave
32|with_circle
37|triangle
2|partment_store
2|relict_house_building
2|scending_node
3|eret_capital_letter_ay
23|bee
23|chee
23|dee
23|ef
24|l
24|m
24|n
25|g
24|r
24|s
25|h
24|th
24|w
23|gay
23|h
23|jee
23|kay
23|long_a
29|h
28|e
28|i
28|o
29|o
23|oi
24|w
23|pee
23|short_a
30|h
29|e
29|i
29|o
30|o
23|tee
24|hee
23|vee
23|wu
23|yee
23|zee
24|hee
8|small_letter_ay
21|bee
21|chee
21|dee
21|ef
22|l
22|m
22|n
23|g
22|r
22|s
23|h
22|th
22|w
21|gay
21|h
21|jee
21|kay
21|long_a
27|h
26|e
26|i
26|o
27|o
21|oi
22|w
21|pee
21|short_a
28|h
27|e
27|i
27|o
28|o
21|tee
22|hee
21|vee
21|wu
21|yee
21|zee
22|hee
5|t
6|_island
3|ktop_computer
8|window
2|vanagari_abbreviation_sign
12|cute_accent
11|caret
11|danda
12|igit_eight
17|five
18|our
17|nine
17|one
17|seven
18|ix
17|three
18|wo
17|zero
12|ouble_danda
11|gap_filler
12|rave_accent
11|headstroke
11|jain_om
11|letter_a
19|a
19|i
19|u
19|w
19|y
18|ba
19|ba
19|ha
18|ca
20|ndra_a
25|e
25|o
19|ha
18|da
19|da
20|da
21|ha
20|ha
19|ha
18|e
18|fa
18|ga
19|ga
19|ha
20|ha
19|lottal_stop
18|ha
19|eavy_ya
18|i
19|i
18|ja
19|ha
19|ja
18|ka
19|ha
20|ha
18|la
19|la
20|la
18|ma
20|rwari_dda
18|na
19|ga
19|na
20|na
19|ya
18|o
19|e
19|oe
18|pa
19|ha
18|qa
18|ra
19|ha
19|ra
18|sa
19|ha
20|ort_a
24|e
24|o
19|sa
18|ta
19|ha
19|ta
20|ha
18|u
19|e
19|u
20|e
18|va
19|ocalic_l
27|l
26|r
27|r
18|ya
19|ya
18|za
19|ha
11|om
11|sign_anusvara
17|vagraha
16|candrabindu
27|_avagraha
28|three
29|wo
28|virama
16|double_candrabindu_virama
16|high_spacing_dot
16|inverted_candrabindu
16|nukta
16|pushpika
16|siddham
17|pacing_candrabindu
16|virama
18|sarga
12|tress_sign_anudatta
23|udatta
11|vowel_sign_aa
23|i
23|u
23|w
23|y
22|candra_e
29|long_e
29|o
22|e
22|i
23|i
22|o
23|e
23|oe
22|prishthamatra_e
22|short_e
28|o
22|u
23|e
23|u
24|e
22|vocalic_l
31|l
30|r
31|r
3|ice_control_four
15|one
15|string
15|three
16|wo
1|iaeresis
3|meter_sign
4|ond_operator
8|shape_with_a_dot_inside
8|target
8|with_bottom_half_black
13|left_half_black
13|right_half_black
13|top_half_black
2|e_face-1
9|2
9|3
9|4
9|5
9|6
3|sel_locomotive
2|fference_between
2|git_eight
11|_comma
12|full_stop
6|five
10|_comma
11|full_stop
7|our
10|_comma
11|full_stop
6|nine
10|_comma
11|full_stop
6|one
9|_comma
10|full_stop
6|seven
11|_comma
12|full_stop
7|ix
9|_comma
10|full_stop
6|three
11|_comma
12|full_stop
7|wo
9|_comma
10|full_stop
6|zero
10|_comma
11|full_stop
3|ram_for_earth
16|ly_heaven
20|uman
11|greater_yang
20|in
11|heavenly_earth
12|uman_earth
11|lesser_yang
19|in
2|mension_origin
2|ngbat_circled_sans-serif_digit_eight
33|five
34|our
33|nine
33|one
33|seven
34|ix
33|three
34|wo
33|zero
27|number_ten
8|negative_circled_digit_eight
31|five
32|our
31|nine
31|one
31|seven
32|ix
31|three
32|wo
25|number_ten
25|sans-serif_digit_eight
42|five
43|our
42|nine
42|one
42|seven
43|ix
42|three
43|wo
42|zero
36|number_ten
2|rect_current_symbol_form_two
7|hit
2|sabled_car
4|ppointed_but_relieved_face
13|face
3|continuous_underline_symbol
3|guised_face
2|tto_mark
2|ves_akuru_digit_eight
18|five
19|our
18|nine
18|one
18|seven
19|ix
18|three
19|wo
18|zero
13|ouble_danda
12|end_of_text_mark
12|gap_filler
12|initial_ra
12|letter_a
20|a
19|ba
20|ha
19|ca
20|ha
19|da
20|da
21|ha
20|ha
19|e
19|ga
20|ha
19|ha
19|i
20|i
19|ja
19|ka
20|ha
19|la
20|la
19|ma
19|na
20|ga
20|na
20|ya
19|o
19|pa
20|ha
19|ra
19|sa
20|ha
20|sa
19|ta
20|ha
20|ta
19|u
20|u
19|va
19|ya
20|ya
19|za
12|medial_ra
19|ya
12|prefixed_nasal_sign
12|sign_anusvara
17|candrabindu
17|halanta
17|nukta
12|virama
13|owel_sign_aa
24|i
23|e
23|i
24|i
23|o
23|u
24|u
3|ides
4|ng_mask
4|sion_sign
10|lash
9|times
3|orce_symbol
2|ya_lamp
2|zzy_face
6|symbol
1|le
1|na_double_helix
1|o_not_litter_symbol
2|cument
8|_with_picture
14|text
18|_and_picture
2|do
2|es_not_contain_as_member
20|normal_subgroup
35|_or_equal
9|divide
15|_with_reversed_negation_slash
9|force
9|precede
16|_or_equal
11|ove
9|succeed
16|_or_equal
2|g
3|_face
3|ra_abbreviation_sign
6|letter_a
14|a
14|i
14|u
13|ba
14|ha
13|ca
14|ha
13|da
14|da
15|ha
14|ha
13|e
13|ga
14|ha
13|ha
13|i
14|i
13|ja
14|ha
13|ka
14|ha
13|la
13|ma
13|na
14|ga
14|na
14|ya
13|o
13|pa
14|ha
13|ra
14|ra
13|sa
14|ha
14|sa
13|ta
14|ha
14|ta
15|ha
13|u
14|u
13|va
13|ya
6|sign_anusvara
11|nukta
11|virama
13|sarga
6|vowel_sign_aa
18|i
18|u
17|e
17|i
18|i
17|o
17|u
18|u
17|vocalic_r
26|r
2|llar_sign
3|phin
2|mino_tile_horizontal-00-00
27|1
27|2
27|3
27|4
27|5
27|6
24|1-00
27|1
27|2
27|3
27|4
27|5
27|6
24|2-00
27|1
27|2
27|3
27|4
27|5
27|6
24|3-00
27|1
27|2
27|3
27|4
27|5
27|6
24|4-00
27|1
27|2
27|3
27|4
27|5
27|6
24|5-00
27|1
27|2
27|3
27|4
27|5
27|6
24|6-00
27|1
27|2
27|3
27|4
27|5
27|6
22|_back
12|vertical-00-00
25|1
25|2
25|3
25|4
25|5
25|6
22|1-00
25|1
25|2
25|3
25|4
25|5
25|6
22|2-00
25|1
25|2
25|3
25|4
25|5
25|6
22|3-00
25|1
25|2
25|3
25|4
25|5
25|6
22|4-00
25|1
25|2
25|3
25|4
25|5
25|6
22|5-00
25|1
25|2
25|3
25|4
25|5
25|6
22|6-00
25|1
25|2
25|3
25|4
25|5
25|6
20|_back
2|ng_sign
2|or
2|t_above
4|minus
4|operator
4|plus
3|ted_circle
8|ross
7|fence
7|line_face
7|obelos
7|right-pointing_angle
7|solidus
8|quare
7|transposition_marker
2|uble-ended_multimap
7|line_equal_to_or_greater-than
24|less-than
12|slanted_equal_to_or_greater-than
32|less-than
20|greater-than_or_equal_to
20|less-than_or_equal_to
7|struck_capital_c
22|gamma
22|h
22|n
22|p
23|i
22|q
22|r
22|z
14|italic_capital_d
21|small_d
27|e
27|i
27|j
14|n-ary_summation
14|small_gamma
20|pi
6|_acute_accent
7|circled_digit_eight
21|five
22|our
21|nine
21|one
21|seven
22|ix
21|three
22|wo
15|number_ten
8|olon_equal
8|urly_loop
7|dagger
8|own_tack
7|exclamation_mark
7|high-reversed-9_quotation_mark
8|yphen
7|integral
11|rsection
7|left_arc_greater-than_bracket
8|ogical_and
15|or
9|w-9_quotation_mark
11|reversed-9_quotation_mark
10|_line
7|nested_greater-than
14|less-than
23|_with_underbar
7|oblique_hyphen
7|plus
8|recedes
9|ime
12|_quotation_mark
7|question_mark
7|right_arc_less-than_bracket
7|solidus_operator
8|quare_intersection
14|union
8|tacked_comma
9|roke_not_sign
8|ubset
9|cceeds
9|perset
9|spension_mark
7|union
8|p_tack
7|vertical_bar
19|_double_left_turnstile
27|right_turnstile
20|left_turnstile
16|line
7|wavy_overline
6|d_female_sign
8|male_sign
8|symbol
3|ghnut
2|ve_of_peace
2|wn-pointing_red_triangle
14|small_red_triangle
14|triangle_with_left_half_black
28|right_half_black
4|_arrowhead
5|fish_tail
5|right_diagonal_ellipsis
5|tack
9|_with_circle_below
4|ward_facing_hook
20|_with_dot
16|notched_hook
28|_with_dot
8|s_ancora
11|rrow
15|_and_right_one_eighth_block
16|from_bar
16|leftwards_of_upwards_arrow
16|to_bar
16|with_corner_leftwards
21|double_stroke
21|equilateral_arrowhead
21|horizontal_stroke
21|large_triangle_arrowhead
21|medium_triangle_arrowhead
21|notched_tail
21|small_equilateral_arrowhead
27|triangle_arrowhead
21|tip_leftwards
25|rightwards
10|black_arrow
16|circled_white_arrow
10|compressed_arrow
10|dashed_arrow
11|ouble_arrow
10|finger-post_arrow
10|harpoon_with_barb_left_beside_downwards_harpoon_with_barb_right
40|upwards_harpoon_with_barb_right
33|from_bar
33|to_bar
32|wards
28|right_from_bar
34|to_bar
33|wards
11|eavy_arrow
16|compressed_arrow
10|paired_arrows
10|quadruple_arrow
10|rocket
10|sans-serif_arrow
11|quared_arrow
10|triangle-headed_arrow
31|_leftwards_of_upwards_triangle-headed_arrow
32|to_bar
32|with_bold_shaft
37|double_horizontal_stroke
37|heavy_shaft
37|long_tip_leftwards
46|rightwards
37|medium_shaft
37|narrow_shaft
37|very_heavy_shaft
26|dashed_arrow
26|paired_arrows
26|zigzag_arrow
18|_arrowhead
13|ple_arrow
11|wo-headed_arrow_with_triangle_arrowheads
13|_headed_arrow
10|white_arrow
21|_within_triangle_arrowhead
10|zigzag_arrow
1|rachma_sign
3|fting_point_rightwards_arrow
3|gon
6|_face
2|ess
2|ive_slow_sign
2|omedary_camel
3|oling_face
3|p_of_blood
4|let
2|um_with_drumsticks
1|uck
2|mpling
2|ployan_affix_attached_e_hook
24|i_hook
24|left-to-right_secant
24|secant
24|tail
26|ngent
31|_hook
15|high_acute
20|circle
20|dot
20|grave
20|line
21|ong_grave
20|tight_acute
20|vertical
28|_secant
20|wave
15|left_horizontal_secant
16|ow_acute
20|rrow
19|circle
19|dot
19|grave
19|line
20|ong_grave
19|tight_acute
19|vertical
27|_secant
19|wave
15|mid_horizontal_secant
19|vertical_secant
15|right_horizontal_secant
9|double_mark
9|letter_a
17|ou
16|b
16|d
17|_s
17|h
16|e
17|e
17|u
16|f
17|_n
16|g
17|_r_s
16|h
17|l
16|i
17|e
16|j
17|_m
19|_s
18|n
19|_s
18|s
19|_with_dot
18|with_dot
26|s_inside_and_above
16|k
17|_m
18|r_s
17|k
16|l
17|h
17|ong_i
21|u
16|m
17|_n
19|_s
18|s
18|with_dot
16|n
17|_m
19|_s
18|s
18|with_dot
17|asal_a
22|i
22|o
22|u
16|o
17|a
17|oh
17|u
17|w
16|p
17|_n
17|ernin_am
24|n
16|r
17|_s
17|h
17|omanian_i
25|u
16|s
17|_j
19|_s
18|k
19|_r
18|m
18|n
18|p
19|_r
18|s
18|t
19|_r
18|with_dot
26|_below
17|hort_i
17|loan_an
22|dh
22|ee
23|h
23|n
22|j
22|on
23|w
22|u
16|t
17|_r_s
18|s
17|h
16|u
17|_n
17|h
17|i
16|v
17|ocalic_m
16|w
17|_r
17|a
17|ei
17|h
17|i
17|o
18|w
16|x
17|w
16|ye
9|punctuation_chinook_full_stop
9|sign_o_with_cross
9|thick_letter_selector
1|vd
0|e-mail_symbol
1|agle
2|r
3|_of_maize
7|rice
4|with_hearing_aid
3|th
5|_globe_americas
13|sia-australia
12|europe-africa
7|round
2|st_syriac_cross
1|ditorial_coronis
1|gg
2|yptian_hieroglyph_a001
23|2
23|3
23|4
23|5
24|a
23|6
24|a
24|b
23|7
23|8
23|9
22|10
23|1
23|2
23|3
23|4
24|a
23|5
23|6
23|7
24|a
23|8
23|9
22|20
23|1
23|2
23|3
23|4
23|5
23|6
23|7
23|8
23|9
22|30
23|1
23|2
24|a
23|3
23|4
23|5
23|6
23|7
23|8
23|9
22|40
24|a
23|1
23|2
24|a
23|3
24|a
23|4
23|5
24|a
23|6
23|7
23|8
23|9
22|50
23|1
23|2
23|3
23|4
23|5
23|6
23|7
23|8
23|9
22|60
23|1
23|2
23|3
23|4
23|5
23|6
23|7
23|8
23|9
22|70
21|a001
24|2
24|3
24|4
24|5
24|6
24|7
25|a
25|b
24|8
24|9
23|10
24|1
24|2
24|3
24|4
24|5
24|6
24|7
24|8
24|9
23|20
24|1
24|2
24|3
24|4
24|5
24|6
24|7
24|8
24|9
23|30
24|1
24|2
20|b001
23|2
23|3
23|4
23|5
24|a
23|6
23|7
23|8
23|9
21|egin_segment
20|c001
23|2
24|a
24|b
24|c
23|3
23|4
23|5
23|6
23|7
23|8
23|9
22|10
24|a
23|1
23|2
23|3
23|4
23|5
23|6
23|7
23|8
23|9
22|20
23|1
23|2
23|3
23|4
20|d001
23|2
23|3
23|4
23|5
23|6
23|7
23|8
24|a
23|9
22|10
23|1
23|2
23|3
23|4
23|5
23|6
23|7
23|8
23|9
22|20
23|1
23|2
23|3
23|4
23|5
23|6
23|7
24|a
23|8
23|9
22|30
23|1
24|a
23|2
23|3
23|4
24|a
23|5
23|6
23|7
23|8
23|9
22|40
23|1
23|2
23|3
23|4
23|5
23|6
24|a
23|7
23|8
24|a
23|9
22|50
24|a
24|b
24|c
24|d
24|e
24|f
24|g
24|h
24|i
23|1
23|2
24|a
23|3
23|4
24|a
23|5
23|6
23|7
23|8
23|9
22|60
23|1
23|2
23|3
23|4
23|5
23|6
23|7
24|a
24|b
24|c
24|d
24|e
24|f
24|g
24|h
20|e001
23|2
23|3
23|4
23|5
23|6
23|7
23|8
24|a
23|9
24|a
22|10
23|1
23|2
23|3
23|4
23|5
23|6
24|a
23|7
24|a
23|8
23|9
22|20
24|a
23|1
23|2
23|3
23|4
23|5
23|6
23|7
23|8
24|a
23|9
22|30
23|1
23|2
23|3
23|4
24|a
23|6
23|7
23|8
21|nd_segment
20|f001
24|a
23|2
23|3
23|4
23|5
23|6
23|7
23|8
23|9
22|10
23|1
23|2
23|3
24|a
23|4
23|5
23|6
23|7
23|8
23|9
22|20
23|1
24|a
23|2
23|3
23|4
23|5
23|6
23|7
23|8
23|9
22|30
23|1
24|a
23|2
23|3
23|4
23|5
23|6
23|7
24|a
23|8
24|a
23|9
22|40
23|1
23|2
23|3
23|4
23|5
24|a
23|6
24|a
23|7
24|a
23|8
23|9
22|50
23|1
24|a
24|b
24|c
23|2
23|3
20|g001
23|2
23|3
23|4
23|5
23|6
24|a
23|7
24|a
24|b
23|8
23|9
22|10
23|1
24|a
23|2
23|3
23|4
23|5
23|6
23|7
23|8
23|9
22|20
24|a
23|1
23|2
23|3
23|4
23|5
23|6
24|a
23|7
23|8
23|9
22|30
23|1
23|2
23|3
23|4
23|5
23|6
24|a
23|7
24|a
23|8
23|9
22|40
23|1
23|2
23|3
24|a
23|4
23|5
24|a
23|6
23|7
23|8
23|9
22|50
23|1
23|2
23|3
23|4
20|h001
23|2
23|3
23|4
23|5
23|6
24|a
23|7
23|8
21|orizontal_joiner
20|i001
23|2
23|3
23|4
23|5
24|a
23|6
23|7
23|8
23|9
24|a
22|10
24|a
23|1
24|a
23|2
23|3
23|4
23|5
21|nsert_at_bottom_end
37|start
30|top_end
34|start
20|k001
23|2
23|3
23|4
23|5
23|6
23|7
23|8
20|l001
23|2
24|a
23|3
23|4
23|5
23|6
24|a
23|7
23|8
20|m001
24|a
24|b
23|2
23|3
24|a
23|4
23|5
23|6
23|7
23|8
23|9
22|10
24|a
23|1
23|2
24|a
24|b
24|c
24|d
24|e
24|f
24|g
24|h
23|3
23|4
23|5
24|a
23|6
24|a
23|7
24|a
23|8
23|9
22|20
23|1
23|2
24|a
23|3
23|4
24|a
23|5
23|6
23|7
23|8
24|a
23|9
22|30
23|1
24|a
23|2
23|3
24|a
24|b
23|4
23|5
23|6
23|7
23|8
23|9
22|40
24|a
23|1
23|2
23|3
23|4
20|n001
23|2
23|3
23|4
23|5
23|6
23|7
23|8
23|9
22|10
23|1
23|2
23|3
23|4
23|5
23|6
23|7
23|8
24|a
24|b
23|9
22|20
23|1
23|2
23|3
23|4
23|5
24|a
23|6
23|7
23|8
23|9
22|30
23|1
23|2
23|3
24|a
23|4
24|a
23|5
24|a
23|6
23|7
24|a
23|8
23|9
22|40
23|1
23|2
21|l001
24|2
24|3
24|4
24|5
25|a
24|6
24|7
24|8
24|9
23|10
24|1
24|2
24|3
24|4
24|5
24|6
24|7
25|a
24|8
24|9
23|20
21|u001
24|2
24|3
24|4
24|5
24|6
24|7
24|8
24|9
23|10
25|a
24|1
25|a
24|2
24|3
24|4
24|5
24|6
24|7
24|8
25|a
24|9
23|20
24|1
24|2
25|a
20|o001
24|a
23|2
23|3
23|4
23|5
24|a
23|6
24|a
24|b
24|c
24|d
24|e
24|f
23|7
23|8
23|9
22|10
24|a
24|b
24|c
23|1
23|2
23|3
23|4
23|5
23|6
23|7
23|8
23|9
24|a
22|20
24|a
23|1
23|2
23|3
23|4
24|a
23|5
24|a
23|6
23|7
23|8
23|9
24|a
22|30
24|a
23|1
23|2
23|3
24|a
23|4
23|5
23|6
24|a
24|b
24|c
24|d
23|7
23|8
23|9
22|40
23|1
23|2
23|3
23|4
23|5
23|6
23|7
23|8
23|9
22|50
24|a
24|b
23|1
21|verlay_middle
20|p001
24|a
23|2
23|3
24|a
23|4
23|5
23|6
23|7
23|8
23|9
22|10
23|1
20|q001
23|2
23|3
23|4
23|5
23|6
23|7
20|r001
23|2
24|a
23|3
24|a
24|b
23|4
23|5
23|6
23|7
23|8
23|9
22|10
24|a
23|1
23|2
23|3
23|4
23|5
23|6
24|a
23|7
23|8
23|9
22|20
23|1
23|2
23|3
23|4
23|5
23|6
23|7
23|8
23|9
20|s001
23|2
24|a
23|3
23|4
23|5
23|6
24|a
23|7
23|8
23|9
22|10
23|1
23|2
23|3
23|4
24|a
24|b
23|5
23|6
23|7
24|a
23|8
23|9
22|20
23|1
23|2
23|3
23|4
23|5
23|6
24|a
24|b
23|7
23|8
23|9
22|30
23|1
23|2
23|3
23|4
23|5
24|a
23|6
23|7
23|8
23|9
22|40
23|1
23|2
23|3
23|4
23|5
23|6
20|t001
23|2
23|3
24|a
23|4
23|5
23|6
23|7
24|a
23|8
24|a
23|9
24|a
22|10
23|1
24|a
23|2
23|3
23|4
23|5
23|6
24|a
23|7
23|8
23|9
22|20
23|1
23|2
23|3
23|4
23|5
23|6
23|7
23|8
23|9
22|30
23|1
23|2
24|a
23|3
24|a
23|4
23|5
23|6
20|u001
23|2
23|3
23|4
23|5
23|6
24|a
24|b
23|7
23|8
23|9
22|10
23|1
23|2
23|3
23|4
23|5
23|6
23|7
23|8
23|9
22|20
23|1
23|2
23|3
24|a
23|4
23|5
23|6
23|7
23|8
23|9
24|a
22|30
23|1
23|2
24|a
23|3
23|4
23|5
23|6
23|7
23|8
23|9
22|40
23|1
23|2
20|v001
24|a
24|b
24|c
24|d
24|e
24|f
24|g
24|h
24|i
23|2
24|a
23|3
23|4
23|5
23|6
23|7
24|a
24|b
23|8
23|9
22|10
23|1
24|a
24|b
24|c
23|2
24|a
24|b
23|3
23|4
23|5
23|6
23|7
23|8
23|9
22|20
24|a
24|b
24|c
24|d
24|e
24|f
24|g
24|h
24|i
24|j
24|k
24|l
23|1
23|2
23|3
24|a
23|4
23|5
23|6
23|7
23|8
24|a
23|9
24|a
22|30
24|a
23|1
24|a
23|2
23|3
24|a
23|4
23|5
23|6
23|7
24|a
23|8
23|9
22|40
24|a
21|ertical_joiner
20|w001
23|2
23|3
24|a
23|4
23|5
23|6
23|7
23|8
23|9
24|a
22|10
24|a
23|1
23|2
23|3
23|4
24|a
23|5
23|6
23|7
24|a
23|8
24|a
23|9
22|20
23|1
23|2
23|3
23|4
24|a
23|5
20|x001
23|2
23|3
23|4
24|a
24|b
23|5
23|6
24|a
23|7
23|8
24|a
20|y001
24|a
23|2
23|3
23|4
23|5
23|6
23|7
23|8
20|z001
23|2
24|a
24|b
24|c
24|d
23|3
24|a
24|b
23|4
24|a
23|5
24|a
23|6
23|7
23|8
23|9
22|10
23|1
23|2
23|3
23|4
23|5
24|a
24|b
24|c
24|d
24|e
24|f
24|g
24|h
24|i
23|6
24|a
24|b
24|c
24|d
24|e
24|f
24|g
24|h
1|ight_petalled_outlined_black_florette
7|ointed_black_star
14|pinwheel_star
14|rectilinear_black_star
6|spoked_asterisk
6|teardrop-spoked_propeller_asterisk
5|h_note
1|ject_symbol
1|lbasan_letter_a
15|be
15|ce
16|he
15|de
16|he
15|e
16|i
15|fe
15|ge
16|hamma
17|e
16|je
15|he
15|i
15|je
15|ke
16|he
15|le
16|le
15|me
15|na
16|de
16|e
16|je
15|o
15|pe
15|qe
15|re
16|re
15|se
16|he
15|te
16|he
15|u
15|ve
15|xe
15|y
15|ze
16|he
2|ectric_arrow
9|light_bulb
9|plug
9|torch
8|al_intersection
3|ment_of
10|_opening_downwards
19|upwards
11|with_dot_above
16|long_horizontal_stroke
16|overbar
16|two_horizontal_strokes
16|underbar
16|vertical_bar_at_end_of_horizontal_stroke
3|phant
3|vator
2|f
2|ymaic_letter_aleph
16|yin
15|beth
15|daleth
15|gimel
15|he
17|th
15|kaph
15|lamedh
15|mem
15|nun
15|pe
15|qoph
15|resh
15|sadhe
17|mekh
16|hin
15|taw
16|eth
15|waw
15|yodh
15|zayin
9|igature_zayin-yodh
1|m_dash
3|quad
3|space
2|oji_component_bald
16|curly_hair
16|red_hair
16|white_hair
6|modifier_fitzpatrick_type-1-2
32|3
32|4
32|5
32|6
2|phasis_symbol
3|ty_document
6|nest
7|ote
10|_pad
13|ge
6|page
10|s
6|set
9|_with_left_arrow_above
15|overbar
15|right_arrow_above
15|small_circle_above
1|n_dash
3|quad
3|space
2|d_of_guarded_area
7|line
7|medium
7|proof
10|tected_area
7|selected_area
7|text
8|ransmission
19|_block
4|with_leftwards_arrow_above
2|q
3|uiry
2|ter_symbol
2|velope
8|_with_downwards_arrow_above
14|lightning
1|ol
2|m
2|t
1|pa
1|qual_and_parallel_to
6|to_by_definition
9|or_greater-than
12|less-than
12|precedes
12|succeeds
5|s_colon
7|sign
11|_above_leftwards_arrow
18|plus_sign
18|rightwards_arrow
18|tilde_operator
13|nd_slanted_parallel
32|_with_tilde_above
12|with_bumpy_above
17|dot_below
17|infinity_below
17|two_dots_above_and_two_dots_below
7|with_asterisk
3|iangular_to
4|valent_to
11|with_four_dots_above
1|rase_to_the_left
13|right
2|is_form_one
10|two
2|ror-barred_black_circle
19|diamond
19|square
13|white_circle
19|diamond
19|square
1|sa
2|c
3|ape
2|timated_symbol
8|s
1|tb
2|hiopic_colon
11|mbining_gemination_and_vowel_length_mark
30|mark
19|vowel_length_mark
12|ma
9|digit_eight
15|five
16|our
15|nine
15|one
15|seven
16|ix
15|three
16|wo
9|full_stop
9|number_eighty
16|fifty
17|orty
16|hundred
16|ninety
16|seventy
17|ixty
16|ten
19|_thousand
17|hirty
17|wenty
9|paragraph_separator
10|reface_colon
9|question_mark
9|section_mark
11|micolon
10|yllable_ba
20|a
19|ba
21|a
20|e
21|e
20|i
20|o
20|u
19|e
20|e
19|i
19|o
20|a
19|u
19|wa
20|e
21|e
20|i
18|ca
20|a
19|ca
21|a
20|e
21|e
20|ha
22|a
21|e
22|e
21|ha
23|a
22|e
23|e
22|i
22|o
22|u
21|i
21|o
21|u
20|i
20|o
20|u
19|e
20|e
19|ha
21|a
20|e
21|e
20|i
20|o
21|a
20|u
20|wa
19|i
19|o
20|a
19|u
19|wa
18|da
20|a
19|da
21|a
20|e
21|e
20|haa
21|e
22|e
21|i
21|o
21|u
20|i
20|o
21|a
20|u
20|wa
19|e
20|e
19|i
19|o
20|a
19|u
19|wa
19|zaa
20|e
21|e
20|i
20|o
20|u
18|fa
20|a
19|e
20|e
19|i
19|o
19|u
19|wa
20|e
21|e
20|i
19|ya
18|ga
20|a
19|e
20|e
19|ga
21|a
20|e
21|e
20|i
20|o
20|u
20|wa
22|a
21|e
22|e
21|i
19|i
19|lottal_a
27|a
26|e
27|e
26|i
26|o
27|a
26|u
26|wa
19|o
20|a
19|u
20|rage_bwee
27|i
25|fwee
27|i
25|gwe
28|e
27|i
25|hhwa
25|kwe
28|e
27|i
25|mwee
27|i
25|pwee
27|i
25|qwe
28|e
27|i
19|wa
21|a
20|e
21|e
20|i
19|ya
21|a
20|e
21|e
20|i
20|o
20|u
18|ha
20|a
19|e
20|e
19|ha
21|a
20|e
21|e
20|i
20|o
20|u
20|wa
21|e
22|e
21|i
20|ya
22|a
21|e
22|e
21|i
21|o
21|u
19|i
19|o
20|a
19|u
18|ja
20|a
19|e
20|e
19|i
19|o
20|a
19|u
19|wa
18|ka
20|a
19|e
20|e
19|i
19|o
20|a
19|u
19|wa
21|a
20|e
21|e
20|i
19|xa
21|a
20|e
21|e
20|i
20|o
20|u
20|wa
22|a
21|e
22|e
21|i
19|ya
21|a
20|e
21|e
20|i
20|o
20|u
18|la
20|a
19|e
20|e
19|i
19|o
20|a
19|u
19|wa
18|ma
20|a
19|e
20|e
19|i
19|o
20|a
19|u
19|wa
20|e
21|e
20|i
19|ya
18|na
20|a
19|e
20|e
19|i
19|o
20|a
19|u
19|wa
19|ya
21|a
20|e
21|e
20|i
20|o
21|a
20|u
20|wa
18|pa
20|a
19|e
20|e
19|ha
21|a
21|ryngeal_a
30|a
29|e
30|e
29|i
29|o
29|u
20|e
21|e
20|i
20|o
21|a
20|u
20|wa
19|i
19|o
20|a
19|u
19|wa
20|e
21|e
20|i
18|qa
20|a
19|e
20|e
19|ha
21|a
20|e
21|e
20|i
20|o
20|u
20|wa
22|a
21|e
22|e
21|i
19|i
19|o
20|a
19|u
19|wa
21|a
20|e
21|e
20|i
19|ya
21|a
20|e
21|e
20|i
20|o
20|u
18|ra
20|a
19|e
20|e
19|i
19|o
20|a
19|u
19|wa
19|ya
18|sa
20|a
19|e
20|batbeit_bwa
28|fwa
28|mwa
28|pwa
20|e
19|ha
21|a
20|e
21|e
20|i
20|o
21|a
20|u
20|wa
19|i
19|o
20|a
19|sa
21|a
20|e
21|e
20|i
20|o
20|u
19|u
19|wa
19|za
21|a
20|e
21|e
20|i
20|o
20|u
20|wa
18|ta
20|a
19|e
20|e
19|ha
21|a
20|e
21|e
20|i
20|o
21|a
20|u
20|wa
19|i
19|o
20|a
19|sa
21|a
20|e
21|e
20|i
20|o
20|u
20|wa
19|thaa
21|e
22|e
21|i
21|o
21|u
19|u
19|wa
19|za
21|a
20|e
21|e
20|i
20|o
21|a
20|u
18|va
20|a
19|e
20|e
19|i
19|o
19|u
19|wa
18|wa
20|a
19|e
20|e
19|i
19|o
20|a
19|u
18|xa
20|a
19|e
20|e
19|i
19|o
20|a
19|u
19|wa
21|a
20|e
21|e
20|i
19|ya
21|a
20|e
21|e
20|i
20|o
20|u
18|ya
20|a
19|e
20|e
19|i
19|o
20|a
19|u
18|za
20|a
19|e
20|e
19|ha
21|a
20|e
21|e
20|i
20|o
20|u
20|wa
19|i
19|o
20|a
19|u
19|wa
19|za
21|a
20|e
21|e
20|i
20|o
20|u
9|tonal_mark_chiret
20|deret
25|-hidet
21|ifat
20|hidet
20|kenat
21|urt
20|rikrik
20|short_rikrik
20|yizet
9|wordspace
2|x
1|uler_constant
2|ro-currency_sign
4|_sign
4|pean_castle
9|post_office
1|vergreen_tree
1|xcess
3|lamation_mark
12|question_mark
2|pressionless_face
2|tended_arabic-indic_digit_eight
28|five
29|our
28|nine
28|one
28|seven
29|ix
28|three
29|wo
28|zero
3|raterrestrial_alien
4|emely_heavy_five_spoked_asterisk
16|greek_cross
16|saltire
17|ix_spoked_asterisk
16|white_circle
22|square
1|ye
3|glasses
3|s
0|face_holding_back_tears
5|massage
5|palm
5|savouring_delicious_food
6|creaming_in_fear
5|throwing_a_kiss
5|with_cold_sweat
12|wboy_hat
10|diagonal_mouth
10|finger_covering_closed_lips
10|head-bandage
10|look_of_triumph
10|medical_mask
11|onocle
10|no_good_gesture
10|ok_gesture
11|ne_eyebrow_raised
11|pen_eyes_and_hand_over_mouth
15|mouth
20|_and_cold_sweat
21|vomiting
10|party_horn_and_party_hat
11|eeking_eye
11|leading_eyes
10|rolling_eyes
10|stuck-out_tongue
26|_and_tightly-closed_eyes
31|winking_eye
10|tears_of_joy
11|hermometer
10|uneven_eyes_and_wavy_mouth
9|out_mouth
3|simile_sign
3|tory
2|iry
2|lafel
3|len_leaf
4|ing_diagonal_crossing_north_east_arrow
26|rising_diagonal
17|in_white_circle_in_black_square
2|mily
2|rsi_symbol
2|ther_christmas
2|x_icon
4|machine
1|earful_face
3|ther
2|male_sign
3|inine_ordinal_indicator
2|ncer
2|rris_wheel
4|y
1|f
1|ield_hockey_stick_and_ball
2|gure_dash
7|space
2|le_cabinet
5|folder
5|separator
3|m_frames
5|projector
2|nite_part_integral
2|re
4|_engine
6|xtinguisher
4|cracker
4|work_sparkler
8|s
3|st_place_medal
6|quarter_moon
18|_symbol
19|with_face
6|strong_isolate
2|sh
4|_cake_with_swirl_design
4|eye
4|ing_pole_and_fish
3|ted_hand_sign
2|ve_dot_mark
9|punctuation
1|lag_in_hole
3|mingo
3|t_shoe
4|bread
4|ness
2|eur-de-lis
3|xed_biceps
2|oppy_disk
3|ral_heart
3|wer
6|_playing_cards
8|unctuation_mark
2|ushed_face
2|y
3|ing_disc
7|envelope
7|saucer
1|og
3|gy
2|lder
2|ndue
2|ot
4|prints
2|r_all
3|ces
3|k_and_knife
14|_with_plate
4|ed_paragraphos
4|ing
3|m_feed
3|tune_cookie
2|untain
3|r-per-em_space
4|_balloon-spoked_asterisk
5|club-spoked_asterisk
6|orner_arrows_circling_anticlockwise
5|dot_mark
9|punctuation
5|leaf_clover
5|pointed_black_star
5|teardrop-spoked_asterisk
4|th_root
2|x_face
1|raction_numerator_one
9|slash
3|me_with_an_x
11|picture
11|tiles
2|eezing_face
3|nch_franc_sign
9|ies
2|ied_shrimp
2|og_face
3|nt-facing_baby_chick
6|tilted_shadowed_white_rightwards_arrow
3|wn
5|ing_face_with_open_mouth
1|s
2|i
1|uel_pump
2|ll_block
5|moon_symbol
10|with_face
5|outer_join
5|stop
4|width_ampersand
11|postrophe
11|sterisk
10|broken_bar
10|cent_sign
11|ircumflex_accent
11|olon
12|mma
14|ercial_at
10|digit_eight
16|five
17|our
16|nine
16|one
16|seven
17|ix
16|three
17|wo
16|zero
11|ollar_sign
10|equals_sign
11|xclamation_mark
10|full_stop
10|grave_accent
12|eater-than_sign
10|hyphen-minus
10|latin_capital_letter_a
31|b
31|c
31|d
31|e
31|f
31|g
31|h
31|i
31|j
31|k
31|l
31|m
31|n
31|o
31|p
31|q
31|r
31|s
31|t
31|u
31|v
31|w
31|x
31|y
31|z
16|small_letter_a
29|b
29|c
29|d
29|e
29|f
29|g
29|h
29|i
29|j
29|k
29|l
29|m
29|n
29|o
29|p
29|q
29|r
29|s
29|t
29|u
29|v
29|w
29|x
29|y
29|z
11|eft_curly_bracket
15|parenthesis
15|square_bracket
15|white_parenthesis
12|ss-than_sign
11|ow_line
10|macron
10|not_sign
11|umber_sign
10|percent_sign
11|lus_sign
11|ound_sign
10|question_mark
12|otation_mark
10|reverse_solidus
11|ight_curly_bracket
16|parenthesis
16|square_bracket
16|white_parenthesis
10|semicolon
11|olidus
10|tilde
10|vertical_line
10|won_sign
10|yen_sign
2|nction_application
3|eral_urn
2|se
1|vs1
3|2
3|3
3|4
0|game_die
2|rlic
1|ear
4|_with_handles
9|out_hub
2|m_stone
3|ini
2|nie
2|ometric_proportion
9|ally_equal_to
17|ivalent_to
3|rgian_capital_letter_aen
25|n
24|ban
24|can
25|har
26|in
25|il
24|don
24|en
24|gan
25|han
24|hae
26|r
25|e
25|ie
25|oe
24|in
24|jhan
25|il
24|kan
25|har
24|las
24|man
24|nar
24|on
24|par
25|har
24|qar
24|rae
24|san
25|hin
24|tan
26|r
24|un
24|vin
24|we
24|xan
24|yn
24|zen
25|har
9|letter_aen
17|in
17|n
16|ban
16|can
17|har
18|in
17|il
16|don
16|elifi
17|n
16|fi
16|gan
17|han
16|hae
18|r
19|d_sign
17|e
17|ie
17|oe
16|in
16|jhan
17|il
16|kan
17|har
16|labial_sign
18|s
16|man
16|nar
16|on
16|par
17|har
16|qar
16|rae
16|san
17|hin
16|tan
18|r
17|urned_gan
16|un
16|vin
16|we
16|xan
16|yn
16|zen
17|har
9|mtavruli_capital_letter_aen
34|in
34|n
33|ban
33|can
34|har
35|in
34|il
33|don
33|elifi
34|n
33|fi
33|gan
34|han
33|hae
35|r
36|d_sign
34|e
34|ie
34|oe
33|in
33|jhan
34|il
33|kan
34|har
33|labial_sign
35|s
33|man
33|nar
33|on
33|par
34|har
33|qar
33|rae
33|san
34|hin
33|tan
35|r
34|urned_gan
33|un
33|vin
33|we
33|xan
33|yn
33|zen
34|har
9|paragraph_separator
9|small_letter_aen
23|n
22|ban
22|can
23|har
24|in
23|il
22|don
22|en
22|gan
23|han
22|hae
24|r
23|e
23|ie
23|oe
22|in
22|jhan
23|il
22|kan
23|har
22|las
22|man
22|nar
22|on
22|par
23|har
22|qar
22|rae
22|san
23|hin
22|tan
24|r
22|un
22|vin
22|we
22|xan
22|yn
22|zen
23|har
2|rman_penny_sign
2|ta_mark
1|host
1|imel_symbol
2|raffe_face
3|l
4|s_symbol
1|lagolitic_capital_letter_azu
26|big_yus
27|uky
26|caudate_chrivi
27|hrivi
26|djervi
27|obro
27|zelo
26|fita
27|ritu
26|glagoli
26|heru
26|i
27|nitial_izhe
27|otated_big_yus
34|small_yus
27|zhe
29|itsa
26|kako
26|latinate_myslite
27|judije
26|myslite
26|nashi
26|onu
27|tu
26|pe
27|okoji
26|ritsi
26|sha
28|ta
30|pic
27|lovo
27|mall_yus
35|_with_tail
27|pidery_ha
26|trokutasti_a
27|si
27|vrido
26|uku
26|vede
26|yati
27|eri
29|u
28|stu
27|o
27|u
26|zemlja
27|hivete
11|small_letter_azu
24|big_yus
25|uky
24|caudate_chrivi
25|hrivi
24|djervi
25|obro
25|zelo
24|fita
25|ritu
24|glagoli
24|heru
24|i
25|nitial_izhe
25|otated_big_yus
32|small_yus
25|zhe
27|itsa
24|kako
24|latinate_myslite
25|judije
24|myslite
24|nashi
24|onu
25|tu
24|pe
25|okoji
24|ritsi
24|sha
26|ta
28|pic
25|lovo
25|mall_yus
33|_with_tail
25|pidery_ha
24|trokutasti_a
25|si
25|vrido
24|uku
24|vede
24|yati
25|eri
27|u
26|stu
25|o
25|u
24|zemlja
25|hivete
3|ss_of_milk
2|eich_stark
2|obe_with_meridians
3|ves
3|wing_star
1|oal_net
3|t
2|ggles
2|lfer
2|rilla
2|thic_letter_ahsa
15|ihvus
14|bairkan
14|dags
14|eis
14|faihu
14|giba
14|hagl
15|wair
14|iggws
15|uja
14|jer
14|kusma
14|lagus
14|manna
14|nauths
15|ine_hundred
18|ty
14|othal
14|pairthra
14|qairthra
14|raida
14|sauil
14|teiws
15|hiuth
14|urus
14|winja
1|raduation_cap
3|ntha_au_length_mark
8|letter_a
16|a
16|i
16|u
15|ba
16|ha
15|ca
16|ha
15|da
16|da
17|ha
16|ha
15|ee
15|ga
16|ha
15|ha
15|i
16|i
15|ja
16|ha
15|ka
16|ha
15|la
16|la
15|ma
15|na
16|ga
16|na
16|ya
15|oo
15|pa
16|ha
15|ra
15|sa
16|ha
16|sa
15|ta
16|ha
16|ta
17|ha
15|u
16|u
15|va
16|edic_anusvara
21|double_anusvara
16|ocalic_l
24|l
23|r
24|r
15|ya
8|om
8|sign_anusvara
14|vagraha
13|candrabindu
14|ombining_anusvara_above
13|nukta
13|pluta
13|virama
15|sarga
8|vowel_sign_aa
20|i
20|u
19|ee
19|i
20|i
19|oo
19|u
20|u
19|vocalic_l
28|l
27|r
28|r
3|pes
3|ve_accent
2|eater-than_above_double-line_equal_above_less-than
19|less-than_above_double-line_equal
19|rightwards_arrow
19|similar_above_less-than
27|or_equal
20|lanted_equal_above_less-than_above_slanted_equal
14|nd_not_approximate
17|single-line_not_equal_to
13|beside_less-than
14|ut_not_equal_to
24|ivalent_to
13|closed_by_curve
28|_above_slanted_equal
13|equal_to_or_less-than
13|or_approximate
16|equal_to
19|ivalent_to
16|less-than
16|slanted_equal_to
32|_with_dot_above
47|_left
42|inside
14|ver_equal_to
17|lapping_less-than
13|sign
13|with_circle_inside
18|dot
18|question_mark_above
3|ek_acrophonic_attic_fifty
28|_staters
29|talents
30|housand
37|_staters
25|ve
27|_hundred
35|_staters
36|talents
28|staters
28|talents
29|housand
36|_talents
23|one_drachma
27|half
28|undred_staters
35|talents
27|quarter
27|thousand_staters
36|talents
23|ten_mnas
27|staters
27|talents
28|housand_staters
17|carystian_five_hundred
18|yrenaic_two_drachmas
17|delphic_five_mnas
17|epidaurean_five_hundred
28|two
31|_drachmas
17|heraeum_one_plethron
20|mionian_fifty
28|one
28|ten
17|messenian_ten
17|naxian_five_hundred
17|stratian_fifty_mnas
17|thespian_fifty
28|ve_hundred
31|thousand
26|one
29|_hundred
30|thousand
26|ten
27|hirty
28|ree_hundred
27|wo
18|roezenian_fifty
33|_alternate_form
30|ve
32|_hundred
28|ten
31|_alternate_form
7|no_teleia
7|roura_sign
8|tabe_sign
6|beta_symbol
6|capital_dotted_lunate_sigma_symbol
14|kai_symbol
14|letter_alpha
26|_with_dasia
37|_and_oxia
46|_and_prosgegrammeni
42|perispomeni
53|_and_prosgegrammeni
43|rosgegrammeni
42|varia
47|_and_prosgegrammeni
32|macron
32|oxia
32|prosgegrammeni
33|sili
37|_and_oxia
46|_and_prosgegrammeni
42|perispomeni
53|_and_prosgegrammeni
43|rosgegrammeni
42|varia
47|_and_prosgegrammeni
32|tonos
32|varia
33|rachy
22|rchaic_sampi
21|beta
21|chi
21|delta
21|epsilon
28|_with_dasia
39|_and_oxia
44|varia
34|oxia
34|psili
39|_and_oxia
44|varia
34|tonos
34|varia
22|ta
24|_with_dasia
35|_and_oxia
44|_and_prosgegrammeni
40|perispomeni
51|_and_prosgegrammeni
41|rosgegrammeni
40|varia
45|_and_prosgegrammeni
30|oxia
30|prosgegrammeni
31|sili
35|_and_oxia
44|_and_prosgegrammeni
40|perispomeni
51|_and_prosgegrammeni
41|rosgegrammeni
40|varia
45|_and_prosgegrammeni
30|tonos
30|varia
21|gamma
21|heta
21|iota
25|_with_dasia
36|_and_oxia
41|perispomeni
41|varia
32|ialytika
31|macron
31|oxia
31|psili
36|_and_oxia
41|perispomeni
41|varia
31|tonos
31|varia
32|rachy
21|kappa
21|lamda
21|mu
21|nu
21|omega
26|_with_dasia
37|_and_oxia
46|_and_prosgegrammeni
42|perispomeni
53|_and_prosgegrammeni
43|rosgegrammeni
42|varia
47|_and_prosgegrammeni
32|oxia
32|prosgegrammeni
33|sili
37|_and_oxia
46|_and_prosgegrammeni
42|perispomeni
53|_and_prosgegrammeni
43|rosgegrammeni
42|varia
47|_and_prosgegrammeni
32|tonos
32|varia
23|icron
28|_with_dasia
39|_and_oxia
44|varia
34|oxia
34|psili
39|_and_oxia
44|varia
34|tonos
34|varia
21|pamphylian_digamma
22|hi
22|i
22|si
21|rho
24|_with_dasia
21|san
22|ho
22|igma
21|tau
22|heta
21|upsilon
28|_with_dasia
39|_and_oxia
44|perispomeni
44|varia
35|ialytika
34|macron
34|oxia
34|tonos
34|varia
35|rachy
21|xi
21|yot
21|zeta
15|unate_sigma_symbol
14|reversed_dotted_lunate_sigma_symbol
23|lunate_sigma_symbol
14|theta_symbol
6|dasia
11|_and_oxia
16|perispomeni
16|varia
7|ialytika_and_oxia
20|perispomeni
20|varia
16|tonos
7|rachma_sign
6|five_obols_sign
7|our_obols_sign
6|gramma_sign
6|indiction_sign
8|strumental_notation_symbol-1
36|1
36|2
36|3
36|4
36|7
36|8
36|9
35|2
36|3
36|4
36|5
36|6
36|7
36|9
35|30
36|2
36|6
36|7
36|8
36|9
35|4
36|0
36|2
36|3
36|5
36|7
36|8
36|9
35|5
36|0
36|1
36|2
36|3
36|4
35|7
35|8
6|kai_symbol
8|ppa_symbol
7|oronis
7|yathos_base_sign
6|letter_archaic_koppa
13|digamma
13|koppa
13|sampi
14|mall_capital_gamma
27|lamda
27|omega
27|pi
28|si
27|rho
14|tigma
13|yot
7|itra_sign
7|ower_numeral_sign
7|unate_epsilon_symbol
13|sigma_symbol
6|metretes_sign
7|usical_leimma
6|numeral_sign
6|obol_sign
7|ne_half_sign
19|_alternate_form
10|quarter_sign
7|unkia_sign
7|xia
6|perispomeni
7|hi_symbol
7|i_symbol
7|rosgegrammeni
7|sili
11|_and_oxia
16|perispomeni
16|varia
6|question_mark
6|reversed_lunate_epsilon_symbol
7|ho_symbol
10|with_stroke_symbol
6|sinusoid_sign
7|mall_dotted_lunate_sigma_symbol
12|letter_alpha
24|_with_dasia
35|_and_oxia
44|_and_ypogegrammeni
40|perispomeni
51|_and_ypogegrammeni
40|varia
45|_and_ypogegrammeni
40|ypogegrammeni
30|macron
30|oxia
34|_and_ypogegrammeni
30|perispomeni
41|_and_ypogegrammeni
31|sili
35|_and_oxia
44|_and_ypogegrammeni
40|perispomeni
51|_and_ypogegrammeni
40|varia
45|_and_ypogegrammeni
40|ypogegrammeni
30|tonos
30|varia
35|_and_ypogegrammeni
31|rachy
30|ypogegrammeni
20|rchaic_koppa
27|sampi
19|beta
19|chi
19|delta
20|igamma
19|epsilon
26|_with_dasia
37|_and_oxia
42|varia
32|oxia
32|psili
37|_and_oxia
42|varia
32|tonos
32|varia
20|ta
22|_with_dasia
33|_and_oxia
42|_and_ypogegrammeni
38|perispomeni
49|_and_ypogegrammeni
38|varia
43|_and_ypogegrammeni
38|ypogegrammeni
28|oxia
32|_and_ypogegrammeni
28|perispomeni
39|_and_ypogegrammeni
29|sili
33|_and_oxia
42|_and_ypogegrammeni
38|perispomeni
49|_and_ypogegrammeni
38|varia
43|_and_ypogegrammeni
38|ypogegrammeni
28|tonos
28|varia
33|_and_ypogegrammeni
28|ypogegrammeni
19|final_sigma
19|gamma
19|heta
19|iota
23|_with_dasia
34|_and_oxia
39|perispomeni
39|varia
30|ialytika
38|_and_oxia
43|perispomeni
43|tonos
43|varia
29|macron
29|oxia
29|perispomeni
30|sili
34|_and_oxia
39|perispomeni
39|varia
29|tonos
29|varia
30|rachy
19|kappa
20|oppa
19|lamda
19|mu
19|nu
19|omega
24|_with_dasia
35|_and_oxia
44|_and_ypogegrammeni
40|perispomeni
51|_and_ypogegrammeni
40|varia
45|_and_ypogegrammeni
40|ypogegrammeni
30|oxia
34|_and_ypogegrammeni
30|perispomeni
41|_and_ypogegrammeni
31|sili
35|_and_oxia
44|_and_ypogegrammeni
40|perispomeni
51|_and_ypogegrammeni
40|varia
45|_and_ypogegrammeni
40|ypogegrammeni
30|tonos
30|varia
35|_and_ypogegrammeni
30|ypogegrammeni
21|icron
26|_with_dasia
37|_and_oxia
42|varia
32|oxia
32|psili
37|_and_oxia
42|varia
32|tonos
32|varia
19|pamphylian_digamma
20|hi
20|i
20|si
19|rho
22|_with_dasia
28|psili
19|sampi
21|n
20|ho
20|igma
20|tigma
19|tau
20|heta
19|upsilon
26|_with_dasia
37|_and_oxia
42|perispomeni
42|varia
33|ialytika
41|_and_oxia
46|perispomeni
46|tonos
46|varia
32|macron
32|oxia
32|perispomeni
33|sili
37|_and_oxia
42|perispomeni
42|varia
32|tonos
32|varia
33|rachy
19|xi
19|zeta
12|reversed_dotted_lunate_sigma_symbol
21|lunate_sigma_symbol
7|ubscript_small_letter_beta
29|chi
29|gamma
29|phi
29|rho
7|ymbol_tau_rho
6|talent_sign
7|heta_symbol
8|ree_obols_sign
12|quarters_sign
7|onos
7|ryblion_base_sign
7|wo_obols_sign
10|thirds_sign
6|upsilon_with_acute_and_hook_symbol
19|diaeresis_and_hook_symbol
19|hook_symbol
6|varia
7|ocal_notation_symbol-1
29|0
29|1
29|2
29|3
29|4
29|5
29|6
29|7
29|8
29|9
28|2
29|0
29|1
29|2
29|3
29|4
28|3
28|4
28|5
29|0
29|1
29|2
29|3
29|4
28|6
28|7
28|8
28|9
6|xestes_sign
6|year_sign
7|pogegrammeni
6|zero_sign
4|n_apple
6|book
6|heart
6|salad
2|imacing_face
3|nning_cat_face_with_smiling_eyes
9|face
13|_with_one_large_and_one_small_eye
19|smiling_eyes
20|tar_eyes
2|oup_mark
6|separator
3|wing_heart
1|s
1|uarani_sign
4|dsman
2|ide_dog
3|tar
2|jarati_abbreviation_sign
9|digit_eight
15|five
16|our
15|nine
15|one
15|seven
16|ix
15|three
16|wo
15|zero
9|letter_a
17|a
17|i
17|u
16|ba
17|ha
16|ca
17|ha
16|da
17|da
18|ha
17|ha
16|e
16|ga
17|ha
16|ha
16|i
17|i
16|ja
17|ha
16|ka
17|ha
16|la
17|la
16|ma
16|na
17|ga
17|na
17|ya
16|o
16|pa
17|ha
16|ra
16|sa
17|ha
17|sa
16|ta
17|ha
17|ta
18|ha
16|u
17|u
16|va
17|ocalic_l
25|l
24|r
25|r
16|ya
16|zha
9|om
9|rupee_sign
9|sign_anusvara
15|vagraha
14|candrabindu
15|ircle_nukta_above
14|maddah
14|nukta
14|shadda
15|ukun
14|three-dot_nukta_above
15|wo-circle_nukta_above
14|virama
16|sarga
9|vowel_candra_e
22|o
15|sign_aa
21|i
21|u
20|candra_e
27|o
20|e
20|i
21|i
20|o
20|u
21|u
20|vocalic_l
29|l
28|r
29|r
2|njala_gondi_digit_eight
20|five
21|our
20|nine
20|one
20|seven
21|ix
20|three
21|wo
20|zero
14|letter_a
22|a
22|i
22|u
21|ba
22|ha
21|ca
22|ha
21|da
22|da
23|ha
22|ha
21|ee
21|ga
22|ha
21|ha
21|i
22|i
21|ja
22|ha
21|ka
22|ha
21|la
22|la
21|ma
21|na
22|ga
21|oo
21|pa
22|ha
21|ra
21|sa
21|ta
22|ha
22|ta
23|ha
21|u
22|u
21|va
21|ya
14|om
14|sign_anusvara
19|visarga
14|virama
15|owel_sign_aa
26|i
26|u
25|ee
25|i
26|i
25|oo
25|u
26|u
2|rmukhi_abbreviation_sign
10|ddak
9|digit_eight
15|five
16|our
15|nine
15|one
15|seven
16|ix
15|three
16|wo
15|zero
9|ek_onkar
9|iri
9|letter_a
17|a
17|i
17|u
16|ba
17|ha
16|ca
17|ha
16|da
17|da
18|ha
17|ha
16|ee
16|fa
16|ga
17|ha
18|ha
16|ha
16|i
17|i
16|ja
17|ha
16|ka
17|ha
18|ha
16|la
17|la
16|ma
16|na
17|ga
17|na
17|ya
16|oo
16|pa
17|ha
16|ra
17|ra
16|sa
17|ha
16|ta
17|ha
17|ta
18|ha
16|u
17|u
16|va
16|ya
16|za
9|sign_adak_bindi
14|bindi
14|nukta
14|udaat
14|virama
16|sarga
14|yakash
9|tippi
9|ura
9|vowel_sign_aa
21|i
21|u
20|ee
20|i
21|i
20|oo
20|u
21|u
0|hades
2|ir_space
4|cut
2|lfwidth_black_square
10|downwards_arrow
10|forms_light_vertical
10|hangul_filler
17|letter_a
25|e
24|chieuch
25|ieuc
24|e
25|o
25|u
24|hieuh
24|i
25|eung
24|khieukh
25|iyeok
30|-sios
24|mieum
24|nieun
29|-cieuc
30|hieuh
24|o
25|e
24|phieuph
25|ieup
29|-sios
24|rieul
29|-hieuh
30|kiyeok
30|mieum
30|phieuph
31|ieup
30|sios
30|thieuth
24|sios
25|sangcieuc
29|kiyeok
29|pieup
29|sios
29|tikeut
24|thieuth
25|ikeut
24|u
24|wa
26|e
25|e
26|o
25|i
24|ya
26|e
25|e
26|o
25|i
25|o
25|u
10|ideographic_comma
22|full_stop
10|katakana-hiragana_prolonged_sound_mark
18|_letter_a
26|e
26|ha
27|e
27|i
27|o
27|u
26|i
26|ka
27|e
27|i
27|o
27|u
26|ma
27|e
27|i
27|o
27|u
26|n
27|a
27|e
27|i
27|o
27|u
26|o
26|ra
27|e
27|i
27|o
27|u
26|sa
27|e
27|i
27|mall_a
32|e
32|i
32|o
32|tu
32|u
32|ya
33|o
33|u
27|o
27|u
26|ta
27|e
27|i
27|o
27|u
26|u
26|wa
27|o
26|ya
27|o
27|u
19|middle_dot
19|semi-voiced_sound_mark
19|voiced_sound_mark
10|left_corner_bracket
14|wards_arrow
10|right_corner_bracket
15|wards_arrow
10|upwards_arrow
10|white_circle
2|mburger
3|mer
6|_and_pick
11|sickle
11|wrench
3|sa
4|ter_face
2|nd_with_index_and_middle_fingers_crossed
16|finger_and_thumb_crossed
4|bag
6|ll
4|shake
3|gul_choseong_ceongchieumchieuch
28|ieuc
27|sios
28|sangcieuc
32|sios
17|hieuch
23|-hieuh
24|khieukh
19|tueumchieuch
25|ieuc
24|sios
25|sangcieuc
29|sios
17|ieuc
21|-ieung
16|filler
16|hieuh
21|-sios
16|ieung
21|-chieuch
23|ieuc
22|hieuh
22|kiyeok
22|mieum
22|pansios
23|hieuph
23|ieup
22|rieul
22|sios
22|thieuth
23|ikeut
16|kapyeounmieum
24|phieuph
25|ieup
24|rieul
24|ssangpieup
17|hieukh
17|iyeok
22|-tikeut
16|mieum
21|-kiyeok
22|pieup
22|sios
22|tikeut
16|nieun
21|-cieuc
22|hieuh
22|kiyeok
22|pieup
22|sios
22|tikeut
16|pansios
17|hieuph
23|-hieuh
24|pieup
17|ieup
21|-chieuch
23|ieuc
22|hieuh
22|khieukh
23|iyeok
22|nieun
22|phieuph
22|sios
26|-cieuc
27|kiyeok
27|pieup
27|thieuth
28|ikeut
23|sangsios
22|thieuth
23|ikeut
16|rieul
21|-cieuc
22|hieuh
22|kapyeounpieup
23|hieukh
23|iyeok
22|mieum
22|nieun
22|pieup
22|sios
23|sangkiyeok
27|pieup
27|tikeut
22|tikeut
16|sios
20|-chieuch
22|ieuc
21|hieuh
21|ieung
21|khieukh
22|iyeok
21|mieum
21|nieun
21|phieuph
22|ieup
26|-kiyeok
21|rieul
21|ssangsios
21|thieuth
22|ikeut
17|sangcieuc
26|-hieuh
21|hieuh
21|ieung
21|kiyeok
21|nieun
21|pieup
21|rieul
21|sios
25|-pieup
21|thieuth
22|ikeut
21|yeorinhieuh
16|thieuth
17|ikeut
22|-cieuc
23|kiyeok
23|mieum
23|pieup
23|rieul
23|sios
16|yeorinhieuh
18|sieung
7|double_dot_tone_mark
7|filler
7|jongseong_chieuch
18|ieuc
22|-pieup
23|ssangpieup
17|hieuh
22|-mieum
23|nieun
23|pieup
23|rieul
17|ieung
22|-khieukh
24|iyeok
23|ssangkiyeok
17|kapyeounmieum
25|phieuph
26|ieup
25|rieul
18|hieukh
18|iyeok
23|-chieuch
24|hieuh
24|khieukh
24|nieun
24|pieup
24|rieul
24|sios
28|-kiyeok
17|mieum
22|-chieuch
24|ieuc
23|hieuh
23|kiyeok
23|nieun
23|pansios
24|ieup
28|-sios
23|rieul
23|sios
24|sangnieun
28|sios
17|nieun
22|-chieuch
24|ieuc
23|hieuh
23|kiyeok
23|pansios
23|rieul
23|sios
23|thieuth
24|ikeut
17|pansios
24|-kapyeounpieup
25|pieup
18|hieuph
24|-pieup
25|sios
25|thieuth
18|ieup
22|-chieuch
24|ieuc
23|hieuh
23|mieum
23|phieuph
23|rieul
28|-phieuph
23|sios
27|-tikeut
23|tikeut
17|rieul
22|-hieuh
23|kapyeounpieup
24|hieukh
24|iyeok
29|-hieuh
30|sios
23|mieum
28|-hieuh
29|kiyeok
29|sios
23|nieun
23|pansios
24|hieuph
24|ieup
28|-hieuh
29|phieuph
29|sios
29|tikeut
23|sios
24|sangkiyeok
28|sios
23|thieuth
24|ikeut
29|-hieuh
23|yeorinhieuh
34|-hieuh
25|sieung
17|sios
21|-chieuch
23|ieuc
22|hieuh
22|kapyeounpieup
23|iyeok
22|mieum
22|pansios
23|ieup
22|rieul
22|thieuth
23|ikeut
18|sangcieuc
22|ieung
22|kiyeok
22|mieum
22|nieun
22|pieup
22|rieul
27|-khieukh
22|sios
26|-kiyeok
27|tikeut
22|tikeut
28|-pieup
22|yesieung
17|thieuth
18|ikeut
23|-chieuch
25|ieuc
24|kiyeok
24|pieup
24|rieul
24|sios
28|-kiyeok
24|thieuth
17|yeorinhieuh
19|sieung
25|-hieuh
26|khieukh
27|iyeok
26|mieum
26|pansios
26|sios
27|sangkiyeok
8|ungseong_a
18|-eu
19|o
19|u
18|e
18|raea
22|-a
23|e
24|o
23|i
23|u
17|e
18|o
19|-eu
20|o
20|u
18|u
19|-a
20|e
21|o
21|u
20|o
20|u
17|filler
17|i
18|-a
20|raea
19|eu
19|i
19|o
20|-i
19|u
19|ya
21|-o
21|e
20|e
21|o
20|o
20|u
17|o
18|-e
20|o
19|o
20|-i
19|u
19|ya
21|e
20|e
21|o
18|e
17|ssangaraea
17|u
18|-a
20|e
19|eo-eu
19|i-i
19|u
19|ye
21|o
17|wa
19|e
18|e
19|o
18|i
17|ya
19|-o
20|u
20|yo
19|e
18|e
19|o
20|-o
21|u
21|ya
18|i
19|-u
18|o
19|-a
21|e
20|eo
20|i
20|o
20|ya
22|e
21|eo
18|u
19|-a
21|e
20|e
21|o
20|i
20|o
20|u
20|ye
22|o
7|letter_a
15|e
15|raea
19|e
14|chieuch
15|ieuc
14|e
15|o
15|u
14|hieuh
14|i
15|eung
14|kapyeounmieum
22|phieuph
23|ieup
22|ssangpieup
15|hieukh
15|iyeok
20|-sios
14|mieum
19|-pansios
21|ieup
20|sios
14|nieun
19|-cieuc
20|hieuh
20|pansios
20|sios
20|tikeut
14|o
15|e
14|pansios
15|hieuph
15|ieup
19|-cieuc
20|kiyeok
20|sios
24|-kiyeok
25|tikeut
20|thieuth
21|ikeut
14|rieul
19|-hieuh
20|kiyeok
26|-sios
20|mieum
20|pansios
21|hieuph
21|ieup
25|-sios
20|sios
20|thieuth
21|ikeut
20|yeorinhieuh
14|sios
18|-cieuc
19|kiyeok
19|nieun
19|pieup
19|tikeut
15|sangcieuc
19|hieuh
19|ieung
19|kiyeok
19|nieun
19|pieup
19|sios
19|tikeut
14|thieuth
15|ikeut
14|u
14|wa
16|e
15|e
16|o
15|i
14|ya
16|e
15|e
16|o
17|rinhieuh
16|sieung
22|-pansios
23|sios
15|i
15|o
16|-i
17|ya
19|e
15|u
16|-i
17|ye
19|o
7|single_dot_tone_mark
4|zhou_numeral_eight
17|five
18|our
17|nine
17|one
17|seven
18|ix
17|ten
18|hirty
19|ree
18|wenty
19|o
3|ifi_rohingya_digit_eight
22|five
23|our
22|nine
22|one
22|seven
23|ix
22|three
23|wo
22|zero
16|letter_a
23|ba
23|ca
23|da
24|da
23|fa
23|ga
23|ha
23|ja
23|ka
24|ha
24|inna_wa
29|ya
23|la
23|ma
23|na
24|ga
24|ya
23|pa
23|ra
24|ra
23|sa
24|ha
23|ta
24|ta
23|va
23|wa
23|ya
23|za
16|mark_na_khonna
21|sakin
16|sign_harbahay
21|tahala
23|na
23|ssi
16|vowel_a
22|e
22|i
22|o
22|u
3|unoo_letter_a
15|ba
15|da
15|ga
15|ha
15|i
15|ka
15|la
15|ma
15|na
16|ga
15|pa
15|ra
15|sa
15|ta
15|u
15|wa
15|ya
8|sign_pamudpod
8|vowel_sign_i
19|u
2|ppy_person_raising_one_hand
2|rd_disk
2|tching_chick
3|ran_letter_aleph
15|yn
14|beth
14|daleth-resh
14|gimel
14|he
16|th
14|kaph
14|lamedh
14|mem
14|nun
14|pe
14|qoph
14|sadhe
16|mekh
15|hin
14|taw
15|eth
14|waw
14|yodh
14|zayn
7|number_five
14|one
17|_hundred
14|ten
15|wenty
1|eadphone
4|stone
9|_graveyard_symbol
3|r-no-evil_monkey
4|t_decoration
6|hands
6|with_arrow
11|ribbon
11|tip_on_the_left
3|vy_ampersand_ornament
7|rrow_shaft_width_one
27|_half
28|third
24|two_thirds
7|sterisk
6|ballot_x
7|lack-feathered_north_east_arrow
22|rightwards_arrow
22|south_east_arrow
11|_curved_downwards_and_rightwards_arrow
19|upwards_and_rightwards_arrow
12|heart
6|check_mark
9|vron_snowflake
7|ircle
12|_with_circle_inside
18|stroke_and_two_dots_above
12|d_saltire
7|oncave-pointed_black_rightwards_arrow
6|dashed_triangle-headed_rightwards_arrow
7|ivision_sign
7|ollar_sign
8|uble_comma_quotation_mark_ornament
13|turned_comma_quotation_mark_ornament
8|wnwards_arrow_with_equilateral_arrowhead
27|large_equilateral_arrowhead
6|eight_pointed_black_star
20|pinwheel_star
20|rectilinear_black_star
12|spoked_asterisk
12|teardrop-spoked_propeller_asterisk
7|quals_sign
7|xclamation_mark_ornament
23|symbol
6|five_pointed_black_star
11|spoked_asterisk
7|our_balloon-spoked_asterisk
6|greek_cross
6|heart_exclamation_mark_ornament
7|orizontal_fill
6|interrobang_ornament
6|large_circle
8|tin_cross
7|eft-pointing_angle_bracket_ornament
26|quotation_mark_ornament
10|wards_arrow_with_equilateral_arrowhead
27|large_equilateral_arrowhead
7|igature_open_et_ornament
7|ow_double_comma_quotation_mark_ornament
10|single_comma_quotation_mark_ornament
9|er_right-shadowed_white_rightwards_arrow
6|minus_sign
7|ultiplication_x
6|north_east_arrow
17|pointing_bud
26|vine_leaf
12|west_pointing_bud
26|vine_leaf
6|open_centre_cross
7|utlined_black_star
7|val_with_oval_inside
6|plus_sign
6|right-pointing_angle_bracket_ornament
27|quotation_mark_ornament
11|wards_arrow
22|_with_equilateral_arrowhead
28|large_equilateral_arrowhead
7|ound-tipped_rightwards_arrow
6|saltire
8|ns-serif_interrobang_ornament
7|cript_ligature_et_ornament
7|ingle_comma_quotation_mark_ornament
13|turned_comma_quotation_mark_ornament
8|x_pointed_black_star
10|spoked_asterisk
7|outh_east_arrow
17|pointing_bud
26|vine_leaf
12|west_pointing_bud
26|vine_leaf
7|parkle
6|teardrop-shanked_rightwards_arrow
16|poked_asterisk
22|pinwheel_asterisk
7|riangle-headed_rightwards_arrow
7|welve_pointed_black_star
21|pinwheel_star
6|upper_right-shadowed_white_rightwards_arrow
8|wards_arrow_with_equilateral_arrowhead
25|large_equilateral_arrowhead
6|vertical_bar
6|wedge-tailed_rightwards_arrow
7|hite_circle
12|down-pointing_triangle
12|square
7|ide-headed_rightwards_arrow
2|brew_accent_atnah_hafukh
14|darga
15|ehi
14|etnahta
14|geresh
20|_muqdam
17|shayim
14|iluy
14|mahapakh
15|erkha
20|_kefula
15|unah
14|ole
14|pashta
16|zer
14|qadma
16|rney_para
14|revia
14|segol
15|halshelet
14|telisha_gedola
22|qetana
16|vir
15|ipeha
14|yerah_ben_yomo
16|tiv
14|zaqef_gadol
20|qatan
16|rqa
15|inor
7|letter_alef
18|_with_mapiq
24|patah
24|qamats
16|ternative_ayin
26|plus_sign
15|yin
14|bet
17|_with_dagesh
23|rafe
14|dalet
19|_with_dagesh
14|final_kaf
23|_with_dagesh
20|mem
20|nun
20|pe
22|_with_dagesh
20|tsadi
14|gimel
19|_with_dagesh
14|he
16|_with_mapiq
16|t
14|kaf
17|_with_dagesh
23|rafe
14|lamed
19|_with_dagesh
14|mem
17|_with_dagesh
14|nun
17|_with_dagesh
14|pe
16|_with_dagesh
22|rafe
14|qof
17|_with_dagesh
14|resh
18|_with_dagesh
14|samekh
20|_with_dagesh
15|hin
18|_with_dagesh
30|_and_shin_dot
36|in_dot
24|shin_dot
25|in_dot
14|tav
17|_with_dagesh
15|et
17|_with_dagesh
15|sadi
19|_with_dagesh
14|vav
17|_with_dagesh
23|holam
14|wide_alef
19|dalet
19|final_mem
19|he
19|kaf
19|lamed
19|resh
19|tav
14|yod
17|_with_dagesh
23|hiriq
14|zayin
19|_with_dagesh
8|igature_alef_lamed
16|yiddish_double_vav
31|yod
24|vav_yod
24|yod_yod_patah
7|mark_lower_dot
12|masora_circle
12|upper_dot
7|point_dagesh_or_mapiq
13|hataf_patah
19|qamats
19|segol
14|iriq
14|olam
18|_haser_for_vav
13|judeo-spanish_varika
13|meteg
13|patah
13|qamats
19|_qatan
14|ubuts
13|rafe
13|segol
14|heva
15|in_dot
14|in_dot
13|tsere
8|unctuation_geresh
22|shayim
19|maqaf
19|nun_hafukha
19|paseq
19|sof_pasuq
7|yod_triangle
2|dgehog
2|licopter
3|lschreiber_pause_symbol
3|m_symbol
4|et_with_white_cross
2|ntaigana_letter_a-1
20|2
20|3
20|wo
18|e-1
20|2
20|3
20|4
20|5
20|6
18|ha-1
22|0
22|1
21|2
21|3
21|4
21|5
21|6
21|7
21|8
21|9
19|e-1
21|2
21|3
21|4
21|5
21|6
21|7
19|i-1
21|2
21|3
21|4
21|5
21|6
21|7
19|o-1
21|2
21|3
21|4
21|5
21|6
21|7
21|8
19|u-1
21|2
21|3
18|i-1
20|2
20|3
20|4
18|ka-1
22|0
22|1
21|2
21|3
21|4
21|5
21|6
21|7
21|8
21|9
21|ke
19|e-1
21|2
21|3
21|4
21|5
21|6
19|i-1
21|2
21|3
21|4
21|5
21|6
21|7
21|8
19|o-1
21|2
21|3
21|ki
19|u-1
21|2
21|3
21|4
21|5
21|6
21|7
18|ma-1
21|2
21|3
21|4
21|5
21|6
21|7
19|e-1
21|2
21|ma
19|i-1
21|2
21|3
21|4
21|5
21|6
21|7
19|o-1
21|2
21|3
21|4
21|5
21|6
19|u-1
21|2
21|3
21|4
18|n-mu-mo-1
26|2
19|a-1
21|2
21|3
21|4
21|5
21|6
21|7
21|8
21|9
19|e-1
21|2
21|3
21|4
21|5
21|6
21|ko
19|i-1
21|2
21|3
21|4
21|5
21|6
21|7
21|te
19|o-1
21|2
21|3
21|4
21|5
19|u-1
21|2
21|3
18|o-1
20|2
20|3
18|ra-1
21|2
21|3
21|4
19|e-1
21|2
21|3
21|4
19|i-1
21|2
21|3
21|4
21|5
21|6
21|7
19|o-1
21|2
21|3
21|4
21|5
21|6
19|u-1
21|2
21|3
21|4
21|5
21|6
18|sa-1
21|2
21|3
21|4
21|5
21|6
21|7
21|8
19|e-1
21|2
21|3
21|4
21|5
19|i-1
21|2
21|3
21|4
21|5
21|6
19|o-1
21|2
21|3
21|4
21|5
21|6
21|7
19|u-1
21|2
21|3
21|4
21|5
21|6
21|7
21|8
18|ta-1
21|2
21|3
21|4
19|e-1
21|2
21|3
21|4
21|5
21|6
21|7
21|8
21|9
19|i-1
21|2
21|3
21|4
21|5
21|6
21|7
19|o-1
21|2
21|3
21|4
21|5
21|6
21|ra
19|u-1
21|2
21|3
21|4
21|to
18|u-1
20|2
20|3
20|4
20|5
18|wa-1
21|2
21|3
21|4
21|5
19|e-1
21|2
21|3
21|4
19|i-1
21|2
21|3
21|4
21|5
19|o-1
21|2
21|3
21|4
21|5
21|6
21|7
18|ya-1
21|2
21|3
21|4
21|5
21|yo
19|o-1
21|2
21|3
21|4
21|5
21|6
19|u-1
21|2
21|3
21|4
2|rb
3|mitian_conjugate_matrix
2|xagram_for_abundance
14|fter_completion
14|pproach
13|before_completion
14|iting_through
14|reakthrough
13|coming_to_meet
15|nflict
16|templation
13|darkening_of_the_light
14|ecrease
15|liverance
15|velopment
14|ifficulty_at_the_beginning
15|spersion
14|uration
13|enthusiasm
13|fellowship
14|ollowing
13|gathering_together
14|race
15|eat_possession
21|wer
20|reponderance
19|taming
13|holding_together
13|increase
15|fluence
15|ner_truth
16|ocence
13|limitation
13|modesty
15|uth_corners
13|obstruction
14|pposition
16|ression
13|peace
14|rogress
14|ushing_upward
13|retreat
16|urn
15|volution
13|small_preponderance
19|taming
14|plitting_apart
14|tandstill
13|the_abysmal_water
18|rmy
19|ousing_thunder
17|cauldron
18|linging_fire
18|reative_heaven
17|family
17|gentle_wind
17|joyous_lake
17|keeping_still_mountain
17|marrying_maiden
17|receptive_earth
17|wanderer
18|ell
14|reading
13|waiting
14|ork_on_the_decayed
13|youthful_folly
1|ibiscus
2|gh-heeled_shoe
5|speed_train
16|_with_bullet_nose
4|_brightness_symbol
5|octet_preset
5|voltage_sign
2|king_boot
2|ndu_temple
2|ppopotamus
2|ragana_digraph_yori
9|iteration_mark
9|letter_a
17|rchaic_wu
24|ye
16|ba
17|e
17|i
17|o
17|u
16|da
17|e
17|i
17|o
17|u
16|e
16|ga
17|e
17|i
17|o
17|u
16|ha
17|e
17|i
17|o
17|u
16|i
16|ka
17|e
17|i
17|o
17|u
16|ma
17|e
17|i
17|o
17|u
16|n
17|a
17|e
17|i
17|o
17|u
16|o
16|pa
17|e
17|i
17|o
17|u
16|ra
17|e
17|i
17|o
17|u
16|sa
17|e
17|i
17|mall_a
22|e
22|i
22|ka
23|e
22|o
22|tu
22|u
22|wa
23|e
23|i
23|o
22|ya
23|o
23|u
17|o
17|u
16|ta
17|e
17|i
17|o
17|u
16|u
16|vu
16|wa
17|e
17|i
17|o
16|ya
17|o
17|u
16|za
17|e
17|i
17|o
17|u
9|voiced_iteration_mark
2|storic_site
1|ocho
2|le
3|low_quilt_square_ornament
28|_in_black_square
2|mothetic
2|ney_pot
5|bee
2|ok
2|p
2|rizontal_bar
12|lack_hexagon
17|octagon
11|ellipsis
11|line_extension
11|male_with_stroke_sign
11|one_eighth_block-1358
28|2
28|3
28|4
28|5
28|6
28|7
11|scan_line-1
21|3
21|7
21|9
11|tab_key
14|ulation
21|_set
22|with_justification
12|raffic_light
3|se
5|_face
6|racing
2|spital
2|t_beverage
4|dog
4|pepper
4|springs
3|el
2|urglass
9|_with_flowing_sand
3|se
5|_building
14|s
6|with_garden
1|ryvnia_sign
1|t
2|j
2|s
1|ugging_face
2|ndred_points_symbol
2|shed_face
2|t
1|ygiea
2|phen
6|-minus
6|_bullet
7|with_diaeresis
6|ation_point
3|odiastole
2|steresis_symbol
0|i_love_you_hand_sign
1|ce_cream
5|ube
4|hockey_stick_and_puck
4|skate
1|dentical_to
12|_and_slanted_parallel
10|with_dot_above
6|fication_card
3|ographic_annotation_bottom_mark
23|earth_mark
23|first_mark
24|our_mark
27|th_mark
23|heaven_mark
23|linking_mark
23|man_mark
24|iddle_mark
23|one_mark
23|reverse_mark
23|second_mark
23|third_mark
25|ree_mark
24|op_mark
24|wo_mark
12|closing_mark
13|omma
12|departing_tone_mark
14|scription_character_above_to_below
43|middle_and_below
34|full_surround
34|left_to_middle_and_right
42|right
34|overlaid
34|surround_from_above
48|below
48|left
49|ower_left
48|upper_left
54|right
12|entering_tone_mark
12|full_stop
12|half_fill_space
12|iteration_mark
12|level_tone_mark
12|number_zero
12|rising_tone_mark
12|space
12|tally_mark_five
24|our
23|one
23|three
24|wo
13|elegraph_line_feed_separator_symbol
22|symbol_for_april
34|ugust
33|day_eight
42|een
38|leven
37|fifteen
39|ve
38|our
41|teen
37|nine
41|teen
37|one
37|seven
42|teen
38|ix
40|teen
37|ten
38|hirteen
42|y
43|-one
39|ree
38|welve
40|nty
43|-eight
44|five
45|our
44|nine
44|one
44|seven
45|ix
44|three
45|wo
39|o
34|ecember
33|february
33|hour_eight
43|een
39|leven
38|fifteen
40|ve
39|our
42|teen
38|nine
42|teen
38|one
38|seven
43|teen
39|ix
41|teen
38|ten
39|hirteen
40|ree
39|welve
41|nty
44|-four
45|one
45|three
46|wo
40|o
38|zero
33|january
34|uly
35|ne
33|march
35|y
33|november
33|october
33|september
12|variation_indicator
1|mage_of
8|_or_approximately_equal_to
2|p
3|erial_aramaic_letter_aleph
25|yin
24|beth
24|daleth
24|gimel
24|he
26|th
24|kaph
24|lamedh
24|mem
24|nun
24|pe
24|qoph
24|resh
24|sadhe
26|mekh
25|hin
24|taw
25|eth
24|waw
24|yodh
24|zayin
17|number_one
27|_hundred
28|thousand
24|ten
27|_thousand
25|hree
25|wenty
26|o
17|section_sign
1|nbox_tray
2|coming_envelope
5|plete_infinity
3|rease_font_size_symbol
8|s_as
5|ment
2|d
3|ex
5|_pointing_at_the_viewer
3|ian_rupee_sign
4|c_siyaq_alternate_lakh_mark
12|fraction_one_half
25|quarter
21|three_quarters
12|lakh_mark
12|number_alternate_one
29|ten_thousand
30|wo
19|eight
24|_hundred
25|thousand
24|y
25|_thousand
19|fifty
24|_thousand
21|ve
23|_hundred
24|thousand
20|orty
24|_thousand
21|ur
23|_hundred
24|thousand
19|karor
24|an
19|lakh
23|an
19|nine
23|_hundred
24|thousand
23|ty
25|_thousand
19|one
22|_hundred
23|thousand
19|prefixed_eight
28|five
29|our
28|nine
28|one
28|seven
29|ix
28|three
29|wo
19|seven
24|_hundred
25|thousand
24|ty
26|_thousand
20|ix
22|_hundred
23|thousand
22|ty
24|_thousand
19|ten
22|_thousand
20|hirty
25|_thousand
21|ree
24|_hundred
25|thousand
20|wenty
25|_thousand
21|o
22|_hundred
23|thousand
12|placeholder
12|rupee_mark
2|finity
8|_negated_with_vertical_bar
3|ormation_desk_person
12|separator_four
22|one
22|three
23|wo
13|ource
2|hibit_arabic_form_shaping
8|symmetric_swapping
2|put_symbol_for_latin_capital_letters
23|letters
23|small_letters
17|numbers
17|symbols
2|scriptional_pahlavi_letter_aleph
29|beth
29|daleth
29|gimel
29|he
31|th
29|kaph
29|lamedh
29|mem-qoph
29|nun
29|pe
29|sadhe
31|mekh
30|hin
29|taw
30|eth
29|waw-ayin-resh
29|yodh
29|zayin
22|number_four
29|one
32|_hundred
33|thousand
29|ten
30|hree
30|wenty
31|o
16|rthian_letter_aleph
31|yin
30|beth
30|daleth
30|gimel
30|he
32|th
30|kaph
30|lamedh
30|mem
30|nun
30|pe
30|qoph
30|resh
30|sadhe
32|mekh
31|hin
30|taw
31|eth
30|waw
30|yodh
30|zayin
23|number_four
30|one
33|_hundred
34|thousand
30|ten
31|hree
31|wenty
32|o
3|ertion_symbol
2|tegral
8|_around_a_point_operator
10|verage_with_slash
9|extension
9|with_double_stroke
14|intersection
14|leftwards_arrow_with_hook
14|overbar
14|times_sign
14|underbar
16|ion
4|rcalate
5|ior_product
5|linear_annotation_anchor
23|separator
23|terminator
6|ocked_female_and_male_sign
5|robang
5|section
12|_above_bar_above_union
19|union
13|beside_and_joined_with_intersection
13|with_dot
18|logical_and
18|overbar
2|verse_bullet
8|check_mark
13|er_board_fill
8|downwards_arrow_with_tip_leftwards
8|medium_shade
8|white_circle
5|ted_exclamation_mark
9|interrobang
9|lazy_s
10|ow_kavyka
19|_with_kavyka_above
9|ohm_sign
9|pentagram
9|question_mark
9|undertie
3|isible_plus
10|separator
10|times
1|zakaya_lantern
0|jack-o-lantern
2|panese_bank_symbol
9|castle
9|dolls
9|goblin
9|industrial_standard_symbol
9|ogre
9|post_office
9|symbol_for_beginner
2|r
2|vanese_consonant_sign_cakra
24|keret
24|pengkal
9|digit_eight
15|five
16|our
15|nine
15|one
15|seven
16|ix
15|three
16|wo
15|zero
9|left_rerenggan
11|tter_a
17|i
16|ba
18|_murda
16|ca
18|_murda
16|da
18|_mahaprana
17|da
19|_mahaprana
16|e
16|ga
18|_murda
16|ha
16|i
17|_kawi
17|i
16|ja
18|_mahaprana
16|ka
18|_murda
19|sasak
16|la
16|ma
16|na
18|_murda
17|ga
19|_lelet
25|_raswadi
17|ya
19|_murda
16|o
16|pa
18|_cerek
19|murda
16|ra
18|_agung
16|sa
18|_mahaprana
20|urda
16|ta
18|_murda
17|ta
19|_mahaprana
16|u
16|wa
16|ya
9|pada_adeg
18|_adeg
15|ndap
14|isen-isen
14|lingsa
15|uhur
16|ngsi
14|madya
14|pangkat
15|iseleh
14|tirta_tumetes
14|windu
11|ngkon
13|rangkep
9|right_rerenggan
9|sign_cecak
19|_telu
14|layar
14|panyangga
14|wignyan
9|turned_pada_piseleh
9|vowel_sign_dirga_mure
20|pepet
20|suku
24|_mendut
20|taling
22|rung
21|olong
20|wulu
24|_melik
1|eans
1|igsaw_puzzle_piece
1|oin
2|ystick
1|uggling
2|no
2|piter
0|kaaba
2|ithi_abbreviation_sign
7|danda
8|ouble_danda
14|section_mark
7|enumeration_sign
7|letter_a
15|a
15|i
15|u
14|ba
15|ha
14|ca
15|ha
14|da
15|da
16|dha
16|ha
15|ha
14|e
14|ga
15|ha
14|ha
14|i
15|i
14|ja
15|ha
14|ka
15|ha
14|la
14|ma
14|na
15|ga
15|na
15|ya
14|o
14|pa
15|ha
14|ra
15|ha
14|sa
15|ha
15|sa
14|ta
15|ha
15|ta
16|ha
14|u
15|u
14|va
14|ya
7|number_sign
18|_above
7|section_mark
8|ign_anusvara
12|candrabindu
12|nukta
12|virama
14|sarga
7|vowel_sign_aa
19|i
19|u
18|e
18|i
19|i
18|o
18|u
19|u
18|vocalic_r
2|ngaroo
4|xi_radical_again
16|nd
16|rrive
18|ow
16|xe
15|badger
17|mboo
16|ean
16|ig
17|rd
17|tter
16|lack
17|ood
17|ue
16|oat
17|dy
17|lt_of_cloth
17|ne
17|w
16|ranch
17|istle
17|ush
15|cart
17|uldron
17|ve
16|hild
16|ity
16|lan
18|w
17|iff
17|othes
16|olor
17|mpare
17|rpse
17|ver
17|w
15|death
17|er
16|ipper
17|sh
18|tinguish
17|vination
16|o_not
17|g
17|or
17|t
18|ted_cliff
22|tent
17|uble_x
17|wn_box
16|ragon
17|um
17|y
15|ear
18|th
17|t
16|ight
16|mbroidery
16|nclosure
17|ter
16|ven
19|ing
16|ye
15|face
17|ng
17|ther
16|eather
16|ield
17|ght
17|re
17|sh
16|lute
17|y
16|oot
16|ragrant
17|og
16|ur
15|gate
16|host
16|o
17|_slowly
17|ld
16|rain
18|ss
15|hair
17|lberd
18|f_tree_trunk
17|nd
16|ead
18|rt
17|mp
16|iding_enclosure
16|ook
17|rn
18|se
15|ice
16|nch
17|sect
15|jade
17|r
15|knife
15|lack
17|me
16|eaf
18|ther
17|ek
17|gs
16|id
17|fe
17|ne
16|ong
19|_stride
15|man
16|eat
17|lon
16|illet
17|nister
16|oon
17|rning
18|tar
17|und
19|tain
18|th
15|net
16|ose
17|t
15|old
16|ne
18|self
16|pen_box
17|pose
15|pig
16|low
16|ower
16|rivate
17|ofound
15|rain
17|p
17|t
16|ed
16|ice
17|ght_open_box
17|ver
16|oof
16|un
15|sacrificial_wine
17|lt
17|y
16|cholar
17|ript
16|eal
17|cond
17|e
17|lf
16|heep
18|ll
17|oot
18|rt_tailed_bird
22|hread
16|ickness
17|lk
16|kin
16|lash
18|ve
17|ice
16|mall
16|nout
16|ound
16|pear
18|ech
17|irit
17|oon
17|rout
16|quare
16|tand
17|eam
18|p
17|one
18|p
19|ping
16|un
16|weet
15|table
17|ll
17|nned_leather
16|en
16|iger
17|le
16|ongue
17|oth
16|rack
17|ee
17|ipod
16|urban
18|tle
16|wo
18|_hands
15|use
15|valley
16|illage
15|walk
19|_enclosure
17|ter
16|eapon
17|st
16|heat
17|ite
16|ind
18|e
16|oman
17|rk
16|rap
17|ong
15|yellow
3|nada_ai_length_mark
8|digit_eight
14|five
15|our
14|nine
14|one
14|seven
15|ix
14|three
15|wo
14|zero
8|length_mark
10|tter_a
16|a
16|i
16|u
15|ba
16|ha
15|ca
16|ha
15|da
16|da
17|ha
16|ha
15|e
16|e
15|fa
15|ga
16|ha
15|ha
15|i
16|i
15|ja
16|ha
15|ka
16|ha
15|la
16|la
17|la
15|ma
15|na
17|kaara_pollu
16|ga
16|na
16|ya
15|o
16|o
15|pa
16|ha
15|ra
16|ra
15|sa
16|ha
16|sa
15|ta
16|ha
16|ta
17|ha
15|u
16|u
15|va
16|ocalic_l
24|l
23|r
24|r
15|ya
8|sign_anusvara
14|vagraha
13|candrabindu
13|jihvamuliya
13|nukta
13|siddham
14|pacing_candrabindu
13|upadhmaniya
13|virama
15|sarga
8|vowel_sign_aa
20|i
20|u
19|e
20|e
19|i
20|i
19|o
20|o
19|u
20|u
19|vocalic_l
28|l
27|r
28|r
2|takana-hiragana_double_hyphen
18|prolonged_sound_mark
18|semi-voiced_sound_mark
18|voiced_sound_mark
8|_digraph_koto
9|iteration_mark
9|letter_a
17|rchaic_e
24|wu
24|ye
25|i
16|ba
17|e
17|i
17|o
17|u
16|da
17|e
17|i
17|o
17|u
16|e
16|ga
17|e
17|i
17|o
17|u
16|ha
17|e
17|i
17|o
17|u
16|i
16|ka
17|e
17|i
17|o
17|u
16|ma
17|e
17|i
18|nnan_nasalized_tone-1
38|2
38|3
38|4
38|5
38|7
38|8
23|tone-2
28|3
28|4
28|5
28|7
28|8
17|o
17|u
16|n
17|a
17|e
17|i
17|o
17|u
16|o
16|pa
17|e
17|i
17|o
17|u
16|ra
17|e
17|i
17|o
17|u
16|sa
17|e
17|i
17|mall_a
22|e
22|ha
23|e
23|i
23|o
23|u
22|i
22|ka
23|e
23|u
22|mu
22|n
23|u
22|o
22|ra
23|e
23|i
23|o
23|u
22|si
23|u
22|to
23|u
22|u
22|wa
23|e
23|i
23|o
22|ya
23|o
23|u
17|o
17|u
16|ta
17|e
17|i
17|o
17|u
16|u
16|va
17|e
17|i
17|o
17|u
16|wa
17|e
17|i
17|o
16|ya
17|o
17|u
16|za
17|e
17|i
17|o
17|u
9|middle_dot
9|voiced_iteration_mark
2|yah_li_digit_eight
15|five
16|our
15|nine
15|one
15|seven
16|ix
15|three
16|wo
15|zero
9|letter_a
16|ba
16|ca
16|da
16|ga
16|ha
17|ta
16|i
16|ka
17|ha
16|la
16|ma
16|na
17|ga
17|ya
16|oe
17|o
16|pa
17|ha
16|ra
16|sa
17|ha
16|ta
17|ha
16|va
16|wa
16|ya
16|za
9|sign_cwi
14|shya
9|tone_calya
19|_plophu
14|plophu
9|vowel_e
16|e
15|o
15|u
16|e
1|elvin_sign
2|y
3|board
8|_and_mouse
3|cap_ten
1|haroshthi_digit_four
17|one
17|three
18|wo
11|fraction_one_half
11|letter_a
18|ba
19|ha
18|ca
19|ha
18|da
19|da
20|ha
19|ha
18|ga
19|ha
18|ha
18|ja
18|ka
19|ha
19|ka
18|la
18|ma
18|na
19|na
19|ya
18|pa
19|ha
18|ra
18|sa
19|ha
19|sa
18|ta
19|ha
19|ta
20|ha
20|ta
21|ha
18|va
19|ha
18|ya
18|za
11|number_one_hundred
22|thousand
18|ten
19|wenty
11|punctuation_circle
24|rescent_bar
23|danda
24|ot
25|uble_danda
23|lines
24|otus
23|mangalam
23|small_circle
11|sign_anusvara
16|bar_above
16|cauda
16|dot_below
18|uble_ring_below
16|visarga
11|virama
12|owel_length_mark
17|sign_e
22|i
22|o
22|u
22|vocalic_r
2|itan_small_script_character-18b00
34|1
34|2
34|3
34|4
34|5
34|6
34|7
34|8
34|9
34|a
34|b
34|c
34|d
34|e
34|f
33|10
34|1
34|2
34|3
34|4
34|5
34|6
34|7
34|8
34|9
34|a
34|b
34|c
34|d
34|e
34|f
33|20
34|1
34|2
34|3
34|4
34|5
34|6
34|7
34|8
34|9
34|a
34|b
34|c
34|d
34|e
34|f
33|30
34|1
34|2
34|3
34|4
34|5
34|6
34|7
34|8
34|9
34|a
34|b
34|c
34|d
34|e
34|f
33|40
34|1
34|2
34|3
34|4
34|5
34|6
34|7
34|8
34|9
34|a
34|b
34|c
34|d
34|e
34|f
33|50
34|1
34|2
34|3
34|4
34|5
34|6
34|7
34|8
34|9
34|a
34|b
34|c
34|d
34|e
34|f
33|60
34|1
34|2
34|3
34|4
34|5
34|6
34|7
34|8
34|9
34|a
34|b
34|c
34|d
34|e
34|f
33|70
34|1
34|2
34|3
34|4
34|5
34|6
34|7
34|8
34|9
34|a
34|b
34|c
34|d
34|e
34|f
33|80
34|1
34|2
34|3
34|4
34|5
34|6
34|7
34|8
34|9
34|a
34|b
34|c
34|d
34|e
34|f
33|90
34|1
34|2
34|3
34|4
34|5
34|6
34|7
34|8
34|9
34|a
34|b
34|c
34|d
34|e
34|f
33|a0
34|1
34|2
34|3
34|4
34|5
34|6
34|7
34|8
34|9
34|a
34|b
34|c
34|d
34|e
34|f
33|b0
34|1
34|2
34|3
34|4
34|5
34|6
34|7
34|8
34|9
34|a
34|b
34|c
34|d
34|e
34|f
33|c0
34|1
34|2
34|3
34|4
34|5
34|6
34|7
34|8
34|9
34|a
34|b
34|c
34|d
34|e
34|f
33|d0
34|1
34|2
34|3
34|4
34|5
34|6
34|7
34|8
34|9
34|a
34|b
34|c
34|d
34|e
34|f
33|e0
34|1
34|2
34|3
34|4
34|5
34|6
34|7
34|8
34|9
34|a
34|b
34|c
34|d
34|e
34|f
33|f0
34|1
34|2
34|3
34|4
34|5
34|6
34|7
34|8
34|9
34|a
34|b
34|c
34|d
34|e
34|f
32|c00
34|1
34|2
34|3
34|4
34|5
34|6
34|7
34|8
34|9
34|a
34|b
34|c
34|d
34|e
34|f
33|10
34|1
34|2
34|3
34|4
34|5
34|6
34|7
34|8
34|9
34|a
34|b
34|c
34|d
34|e
34|f
33|20
34|1
34|2
34|3
34|4
34|5
34|6
34|7
34|8
34|9
34|a
34|b
34|c
34|d
34|e
34|f
33|30
34|1
34|2
34|3
34|4
34|5
34|6
34|7
34|8
34|9
34|a
34|b
34|c
34|d
34|e
34|f
33|40
34|1
34|2
34|3
34|4
34|5
34|6
34|7
34|8
34|9
34|a
34|b
34|c
34|d
34|e
34|f
33|50
34|1
34|2
34|3
34|4
34|5
34|6
34|7
34|8
34|9
34|a
34|b
34|c
34|d
34|e
34|f
33|60
34|1
34|2
34|3
34|4
34|5
34|6
34|7
34|8
34|9
34|a
34|b
34|c
34|d
34|e
34|f
33|70
34|1
34|2
34|3
34|4
34|5
34|6
34|7
34|8
34|9
34|a
34|b
34|c
34|d
34|e
34|f
33|80
34|1
34|2
34|3
34|4
34|5
34|6
34|7
34|8
34|9
34|a
34|b
34|c
34|d
34|e
34|f
33|90
34|1
34|2
34|3
34|4
34|5
34|6
34|7
34|8
34|9
34|a
34|b
34|c
34|d
34|e
34|f
33|a0
34|1
34|2
34|3
34|4
34|5
34|6
34|7
34|8
34|9
34|a
34|b
34|c
34|d
34|e
34|f
33|b0
34|1
34|2
34|3
34|4
34|5
34|6
34|7
34|8
34|9
34|a
34|b
34|c
34|d
34|e
34|f
33|c0
34|1
34|2
34|3
34|4
34|5
34|6
34|7
34|8
34|9
34|a
34|b
34|c
34|d
34|e
34|f
33|d0
34|1
34|2
34|3
34|4
34|5
20|filler
2|mer_currency_symbol_riel
6|digit_eight
12|five
13|our
12|nine
12|one
12|seven
13|ix
12|three
13|wo
12|zero
6|independent_vowel_ly
26|y
24|qaa
26|i
26|q
26|u
25|e
25|i
26|i
25|oo_type_one
33|two
25|u
26|k
26|u
27|v
24|ry
26|y
6|letter_ba
13|ca
14|ha
15|o
14|o
13|da
14|o
13|ha
13|ka
14|ha
15|o
14|o
13|la
14|o
13|mo
13|ngo
14|no
14|o
14|yo
13|pha
15|o
14|o
13|qa
13|ro
13|sa
14|ha
14|so
13|ta
14|ha
15|o
14|o
14|tha
16|o
13|vo
13|yo
6|sign_ahsda
12|tthacan
12|vakrahasanya
11|bantoc
13|riyoosan
13|thamasat
12|eyyal
11|camnuc_pii_kuuh
12|oeng
11|kakabat
12|han
12|oomuut
11|lek_too
11|muusikatoan
11|nikahit
11|phnaek_muan
11|reahmuk
12|obat
11|samyok_sannya
11|toandakhiat
12|riisap
11|viriam
11|yuukaleapintu
7|ymbol_bei_koet
17|roc
14|uon_koet
18|roc
13|dap-bei_koet
21|roc
18|uon_koet
22|roc
17|muoy_koet
22|roc
17|pii_koet
21|roc
18|ram_koet
22|roc
16|_koet
17|roc
13|lek_attak_bei
24|uon
23|muoy
23|pii
24|ram
27|-bei
29|uon
28|muoy
28|pii
23|son
13|muoy_koet
18|roc
13|pathamasat
14|ii_koet
17|roc
14|ram-bei_koet
22|roc
19|uon_koet
23|roc
18|muoy_koet
23|roc
18|pii_koet
22|roc
17|_koet
18|roc
13|tuteyasat
6|vowel_inherent_aa
22|q
12|sign_aa
18|e
18|i
18|u
17|e
17|i
18|e
18|i
17|oe
18|o
17|u
18|a
18|u
17|y
18|a
18|y
2|ojki_abbreviation_sign
7|danda
8|ouble_danda
14|section_mark
7|letter_a
15|a
15|i
15|u
14|ba
15|ba
15|ha
14|ca
15|ha
14|da
15|da
16|da
16|ha
15|ha
14|e
14|ga
15|ga
15|ha
14|ha
14|i
14|ja
15|ja
14|ka
15|ha
14|la
15|la
14|ma
14|na
15|ga
15|na
15|ya
14|o
14|pa
15|ha
14|ra
14|sa
14|ta
15|ha
15|ta
16|ha
14|u
14|va
14|ya
7|section_mark
8|ign_anusvara
12|nukta
12|shadda
13|ukun
12|virama
7|vowel_sign_aa
19|i
19|u
18|e
18|i
19|i
18|o
18|u
7|word_separator
2|udawadi_digit_eight
16|five
17|our
16|nine
16|one
16|seven
17|ix
16|three
17|wo
16|zero
10|letter_a
18|a
18|i
18|u
17|ba
18|ba
18|ha
17|ca
18|ha
17|da
18|da
19|da
19|ha
18|ha
17|e
17|ga
18|ga
18|ha
17|ha
17|i
18|i
17|ja
18|ha
18|ja
17|ka
18|ha
17|la
17|ma
17|na
18|ga
18|na
18|ya
17|o
17|pa
18|ha
17|ra
18|ra
17|sa
18|ha
17|ta
18|ha
18|ta
19|ha
17|u
18|u
17|va
17|ya
10|sign_anusvara
15|nukta
15|virama
10|vowel_sign_aa
22|i
22|u
21|e
21|i
22|i
21|o
21|u
22|u
1|imono
2|p_sign
2|ss
4|_mark
4|ing_cat_face_with_closed_eyes
8|face
12|_with_closed_eyes
18|smiling_eyes
2|te
2|wifruit
1|neeling_person
2|ot
1|oala
2|rean_standard_symbol
1|ronos
0|l_b_bar_symbol
1|ab_coat
3|el
2|crosse_stick_and_ball
2|dder
3|y_beetle
2|nguage_tag
2|o_cancellation_mark
4|digit_eight
10|five
11|our
10|nine
10|one
10|seven
11|ix
10|three
11|wo
10|zero
4|ellipsis
4|ho_mo
7|no
4|ko_la
4|letter_bo
11|co
11|do
11|fo_fay
15|on
14|sung
14|tam
11|ho_sung
14|tam
11|khmu_go
16|nyo
13|o_sung
15|tam
12|o
11|lo
13|_ling
15|oot
11|mo
11|ngo
12|o
12|yo
11|o
11|pali_bha
16|cha
16|dda
18|ha
17|ha
16|gha
16|jha
16|lla
16|nna
17|ya
16|tta
18|ha
12|ho_sung
15|tam
12|o
11|ro
11|sanskrit_sha
21|sa
12|o_sung
14|tam
11|tho_sung
15|tam
12|o
11|wo
11|yo
4|niggahita
4|semivowel_sign_lo
19|nyo
5|ign_pali_virama
4|tone_mai_catawa
13|ek
13|tho
14|i
4|vowel_sign_a
16|a
16|i
16|m
16|y
15|e
16|i
15|i
16|i
15|mai_kan
20|on
15|o
15|u
16|u
15|y
16|y
2|rge_blue_circle
11|diamond
11|square
7|rown_circle
12|square
6|circle
6|down_tack
6|green_circle
12|square
6|left_triangle_operator
6|one_dot_over_two_dots_punctuation
10|ring_over_two_rings_punctuation
7|range_circle
13|diamond
13|square
6|purple_circle
13|square
6|red_circle
10|square
6|triple_vertical_bar_operator
7|wo_dots_over_one_dot_punctuation
10|rings_over_one_ring_punctuation
6|up_tack
6|yellow_circle
13|square
5|r_than
11|_or_equal_to
3|i_sign
2|st_quarter_moon
17|_symbol
18|with_face
2|tin_capital_letter_a
22|_with_acute
28|breve
33|_and_acute
38|dot_below
38|grave
38|hook_above
38|tilde
28|caron
29|ircumflex
38|_and_acute
43|dot_below
43|grave
43|hook_above
43|tilde
28|diaeresis
37|_and_macron
29|ot_above
37|_and_macron
32|below
30|uble_grave
28|grave
28|hook_above
28|inverted_breve
28|macron
28|ogonek
28|ring_above
38|_and_acute
33|below
28|stroke
28|tilde
22|a
22|e
23|_with_acute
29|macron
22|frican_d
22|lpha
22|nglicana_w
22|o
22|u
22|v
23|_with_horizontal_bar
22|y
21|b
22|_with_dot_above
32|below
28|flourish
28|hook
28|line_below
28|stroke
28|topbar
22|eta
22|roken_l
21|c
22|_with_acute
28|bar
28|caron
29|edilla
35|_and_acute
29|ircumflex
28|dot_above
28|hook
28|palatal_hook
28|stroke
22|hi
22|losed_insular_g
22|on
22|uatrillo
30|_with_comma
21|d
22|_with_caron
29|edilla
29|ircumflex_below
28|dot_above
32|below
28|hook
28|line_below
28|short_stroke_overlay
29|mall_letter_z
42|_with_caron
29|troke
28|topbar
22|z
23|_with_caron
21|e
22|_with_acute
28|breve
28|caron
29|edilla
35|_and_breve
29|ircumflex
38|_and_acute
43|dot_below
43|grave
43|hook_above
43|tilde
39|below
28|diaeresis
29|ot_above
32|below
30|uble_grave
28|grave
28|hook_above
28|inverted_breve
28|macron
34|_and_acute
39|grave
28|ogonek
28|stroke
28|tilde
33|_below
22|gyptological_ain
36|lef
22|ng
22|sh
22|t
23|h
22|zh
24|_reversed
25|with_caron
21|f
22|_with_dot_above
28|hook
28|stroke
21|g
22|_with_acute
28|breve
28|caron
29|edilla
29|ircumflex
28|dot_above
28|hook
28|macron
28|oblique_stroke
28|stroke
22|amma
22|ha
22|lottal_a
29|i
29|stop
29|u
21|h
22|_with_breve_below
28|caron
29|edilla
29|ircumflex
28|descender
29|iaeresis
29|ot_above
32|below
28|hook
28|stroke
22|alf_h
22|eng
22|wair
21|i
22|_with_acute
28|breve
28|caron
29|ircumflex
28|diaeresis
37|_and_acute
29|ot_above
32|below
30|uble_grave
28|grave
28|hook_above
28|inverted_breve
28|macron
28|ogonek
28|stroke
28|tilde
33|_below
22|nsular_d
29|f
29|g
29|r
29|s
29|t
22|ota
22|s
21|j
22|_with_circumflex
29|rossed-tail
28|stroke
21|k
22|_with_acute
28|caron
29|edilla
28|descender
29|iagonal_stroke
29|ot_below
28|hook
28|line_below
28|oblique_stroke
28|stroke
34|_and_diagonal_stroke
21|l
22|_with_acute
28|bar
29|elt
28|caron
29|edilla
29|ircumflex_below
28|dot_below
37|_and_macron
30|uble_bar
28|high_stroke
28|line_below
28|middle_dot
35|tilde
28|small_letter_j
29|troke
22|j
21|m
22|_with_acute
28|dot_above
32|below
28|hook
22|iddle-welsh_ll
34|v
27|_scots_s
21|n
22|_with_acute
28|caron
29|edilla
29|ircumflex_below
28|descender
29|ot_above
32|below
28|grave
28|left_hook
29|ine_below
29|ong_right_leg
28|oblique_stroke
28|small_letter_j
28|tilde
22|j
21|o
22|_with_acute
28|breve
28|caron
29|ircumflex
38|_and_acute
43|dot_below
43|grave
43|hook_above
43|tilde
28|diaeresis
37|_and_macron
29|ot_above
37|_and_macron
32|below
30|uble_acute
35|grave
28|grave
28|hook_above
30|rn
32|_and_acute
37|dot_below
37|grave
37|hook_above
37|tilde
28|inverted_breve
28|long_stroke_overlay
30|op
28|macron
34|_and_acute
39|grave
29|iddle_tilde
28|ogonek
34|_and_macron
28|stroke
34|_and_acute
28|tilde
33|_and_acute
38|diaeresis
38|macron
22|i
22|ld_polish_o
22|mega
22|o
22|pen_e
26|o
22|u
21|p
22|_with_acute
28|dot_above
28|flourish
28|hook
28|squirrel_tail
29|troke
34|_through_descender
21|q
22|_with_diagonal_stroke
28|stroke_through_descender
21|r
22|_rotunda
23|with_acute
28|caron
29|edilla
28|dot_above
32|below
37|_and_macron
30|uble_grave
28|inverted_breve
28|line_below
28|oblique_stroke
28|stroke
28|tail
22|eversed_c_with_dot
30|e
30|half_h
30|open_e
22|um_rotunda
21|s
22|_with_acute
33|_and_dot_above
28|caron
33|_and_dot_above
29|edilla
29|ircumflex
29|omma_below
28|dot_above
32|below
37|_and_dot_above
28|hook
28|oblique_stroke
28|short_stroke_overlay
29|wash_tail
22|altillo
22|chwa
23|ript_g
22|harp_s
22|igmoid_s
22|mall_capital_i
27|q_with_hook_tail
21|t
22|_with_caron
29|edilla
29|ircumflex_below
29|omma_below
28|diagonal_stroke
29|ot_above
32|below
28|hook
28|line_below
28|retroflex_hook
28|stroke
22|horn
26|_with_stroke
38|_through_descender
22|one_five
26|six
26|two
22|resillo
22|urned_a
29|lpha
28|h
28|insular_g
28|k
28|l
28|m
28|t
28|v
22|z
21|u
22|_bar
23|with_acute
28|breve
28|caron
29|ircumflex
38|_below
28|diaeresis
37|_and_acute
42|caron
42|grave
42|macron
38|below
29|ot_below
30|uble_acute
35|grave
28|grave
28|hook_above
30|rn
32|_and_acute
37|dot_below
37|grave
37|hook_above
37|tilde
28|inverted_breve
28|macron
34|_and_diaeresis
28|ogonek
28|ring_above
28|stroke
28|tilde
33|_and_acute
34|below
22|psilon
21|v
22|_with_diagonal_stroke
29|ot_below
28|hook
28|tilde
22|end
22|isigothic_z
22|olapuk_ae
29|oe
29|ue
22|y
21|w
22|_with_acute
28|circumflex
28|diaeresis
29|ot_above
32|below
28|grave
28|hook
22|ynn
21|x
22|_with_diaeresis
29|ot_above
21|y
22|_with_acute
28|circumflex
28|diaeresis
29|ot_above
32|below
28|grave
28|hook
32|_above
28|loop
28|macron
28|stroke
28|tilde
22|ogh
21|z
22|_with_acute
28|caron
29|ircumflex
28|descender
29|ot_above
32|below
28|hook
28|line_below
28|palatal_hook
28|stroke
29|wash_tail
15|igature_ij
23|oe
7|ross
6|epigraphic_letter_archaic_m
24|i_longa
25|nverted_m
24|reversed_f
33|p
24|sideways_i
6|letter_ain
14|lveolar_click
13|bidental_percussive
15|labial_click
22|percussive
13|dental_click
13|glottal_stop
25|_with_stroke
13|inverted_glottal_stop
34|_with_curl
40|stroke
13|lateral_click
13|pharyngeal_voiced_fricative
13|retroflex_click
28|_with_retroflex_hook
15|versed_esh_loop
22|glottal_stop_with_stroke
13|sinological_dot
14|mall_capital_a
28|e
27|b
28|arred_b
27|c
27|d
27|e
28|th
28|zh
27|f
27|g
28|_with_hook
27|h
27|i
28|nverted_r
27|j
27|k
27|l
28|_with_belt
34|stroke
27|m
27|n
27|o
28|e
28|pen_o
28|u
27|p
27|q
27|r
28|_with_right_leg
28|eversed_n
36|r
28|um
27|s
27|t
28|urned_e
34|g
34|k
34|m
34|r
27|u
27|v
27|w
27|y
27|z
14|tretched_c
24|_with_curl
13|two_with_stroke
13|voiced_laryngeal_spirant
13|wynn
13|yr
6|small_capital_letter_i_with_stroke
27|u_with_stroke
12|letter_a
20|_reversed-schwa
21|with_acute
26|breve
31|_and_acute
36|dot_below
36|grave
36|hook_above
36|tilde
26|caron
27|ircumflex
36|_and_acute
41|dot_below
41|grave
41|hook_above
41|tilde
26|diaeresis
35|_and_macron
27|ot_above
35|_and_macron
30|below
28|uble_grave
26|grave
26|hook_above
26|inverted_breve
26|macron
26|ogonek
26|retroflex_hook
27|ight_half_ring
28|ng_above
36|_and_acute
31|below
26|stroke
26|tilde
20|a
20|e
21|_with_acute
27|macron
20|lpha
24|_with_retroflex_hook
20|nglicana_w
20|o
20|u
20|v
21|_with_horizontal_bar
20|y
19|b
20|_with_dot_above
30|below
26|flourish
26|hook
26|line_below
26|middle_tilde
26|palatal_hook
26|stroke
26|topbar
20|arred_alpha
26|e
26|o
21|seline_esh
20|eta
20|lackletter_e
31|o
32|_with_stroke
20|ottom_half_o
20|roken_l
19|c
20|_with_acute
26|bar
26|caron
27|edilla
33|_and_acute
27|ircumflex
27|url
26|dot_above
26|hook
26|palatal_hook
26|retroflex_hook
26|stroke
20|hi
22|_with_low_left_serif
32|right_ring
20|losed_insular_g
26|omega
27|pen_e
26|reversed_open_e
20|on
20|uatrillo
28|_with_comma
19|d
20|_with_caron
27|edilla
27|ircumflex_below
27|url
26|dot_above
30|below
26|hook
30|_and_tail
26|line_below
26|middle_tilde
26|palatal_hook
26|short_stroke_overlay
27|troke
26|tail
27|opbar
20|b_digraph
20|elta
21|zh_digraph
31|_with_palatal_hook
37|retroflex_hook
20|otless_i
27|j
28|_with_stroke
40|_and_hook
21|uble_r
27|_with_crossed-tail
26|thorn
26|wynn
20|um
20|z
21|_digraph
29|_with_curl
35|retroflex_hook
22|with_caron
19|e
20|_with_acute
26|breve
26|caron
27|edilla
33|_and_breve
27|ircumflex
36|_and_acute
41|dot_below
41|grave
41|hook_above
41|tilde
37|below
26|diaeresis
27|ot_above
30|below
28|uble_grave
26|flourish
26|grave
26|hook_above
26|inverted_breve
26|macron
32|_and_acute
37|grave
26|notch
26|ogonek
26|retroflex_hook
26|stroke
26|tilde
31|_below
20|gyptological_ain
34|lef
20|ng
22|_with_crossed-tail
28|palatal_hook
20|sh
22|_with_curl
28|double_bar
38|_and_curl
28|palatal_hook
28|retroflex_hook
20|t
21|h
20|zh
22|_reversed
23|with_caron
29|url
28|palatal_hook
28|retroflex_hook
28|tail
19|f
20|_with_dot_above
26|hook
26|middle_tilde
26|palatal_hook
26|stroke
20|eng_digraph
31|_with_trill
19|g
20|_with_acute
26|breve
26|caron
27|edilla
27|ircumflex
26|dot_above
26|hook
26|macron
26|oblique_stroke
26|palatal_hook
26|stroke
20|amma
20|ha
20|lottal_a
27|i
27|stop
27|u
19|h
20|_with_breve_below
26|caron
27|edilla
27|ircumflex
26|descender
27|iaeresis
27|ot_above
30|below
26|hook
26|line_below
26|palatal_hook
26|stroke
20|alf_h
20|eng
23|_with_hook
20|v
19|i
20|_with_acute
26|breve
26|caron
27|ircumflex
26|diaeresis
35|_and_acute
27|ot_below
28|uble_grave
26|grave
26|hook_above
26|inverted_breve
26|macron
26|ogonek
26|retroflex_hook
26|stroke
32|_and_retroflex_hook
26|tilde
31|_below
20|nsular_d
27|f
27|g
27|r
27|s
27|t
21|verted_alpha
28|oe
20|ota
23|_with_stroke
22|ified_e
20|s
19|j
20|_with_caron
27|ircumflex
27|rossed-tail
26|stroke
19|k
20|_with_acute
26|caron
27|edilla
26|descender
27|iagonal_stroke
27|ot_below
26|hook
26|line_below
26|oblique_stroke
26|palatal_hook
26|stroke
32|_and_diagonal_stroke
20|ra
19|l
20|_with_acute
26|bar
27|elt
30|_and_palatal_hook
26|caron
27|edilla
27|ircumflex_below
27|url
26|dot_below
35|_and_macron
28|uble_bar
33|middle_tilde
26|fishhook
26|high_stroke
26|inverted_lazy_s
26|line_below
26|middle_dot
33|ring
33|tilde
26|palatal_hook
26|retroflex_hook
40|_and_belt
26|stroke
20|ambda_with_stroke
20|enis_f
21|zh
23|_with_retroflex_hook
20|j
20|ong_s
25|_with_diagonal_stroke
32|ot_above
31|high_stroke
20|s_digraph
20|um
20|z_digraph
19|m
20|_with_acute
26|crossed-tail
26|dot_above
30|below
26|hook
26|middle_tilde
26|palatal_hook
20|iddle-welsh_ll
32|v
25|_scots_s
20|um
19|n
20|_preceded_by_apostrophe
21|with_acute
26|caron
27|edilla
27|ircumflex_below
27|rossed-tail
27|url
26|descender
27|ot_above
30|below
26|grave
26|left_hook
27|ine_below
27|ong_right_leg
26|middle_tilde
26|oblique_stroke
26|palatal_hook
26|retroflex_hook
26|tilde
20|j
20|um
19|o
20|_with_acute
26|breve
26|caron
27|ircumflex
36|_and_acute
41|dot_below
41|grave
41|hook_above
41|tilde
26|diaeresis
35|_and_macron
27|ot_above
35|_and_macron
30|below
28|uble_acute
33|grave
26|grave
26|hook_above
28|rn
30|_and_acute
35|dot_below
35|grave
35|hook_above
35|tilde
26|inverted_breve
26|long_stroke_overlay
28|op
28|w_ring_inside
26|macron
32|_and_acute
37|grave
26|ogonek
32|_and_macron
26|retroflex_hook
26|stroke
32|_and_acute
26|tilde
31|_and_acute
36|diaeresis
36|macron
20|i
20|ld_polish_o
20|mega
20|o
20|pen_e
25|_with_retroflex_hook
24|o
25|_with_retroflex_hook
31|stroke
25|e
20|u
19|p
20|_with_acute
26|dot_above
26|flourish
26|hook
26|middle_tilde
26|palatal_hook
26|squirrel_tail
27|troke
32|_through_descender
20|hi
19|q
20|_with_diagonal_stroke
26|hook
30|_tail
26|stroke_through_descender
20|p_digraph
19|r
20|_rotunda
21|with_acute
26|caron
27|edilla
27|rossed-tail
26|dot_above
30|below
35|_and_macron
28|uble_grave
26|fishhook
34|_and_middle_tilde
39|palatal_hook
26|inverted_breve
26|line_below
27|ong_leg
26|middle_tilde
26|oblique_stroke
26|palatal_hook
26|stroke
26|tail
25|out_handle
20|ams_horn
20|eversed_c
29|_with_dot
28|e
29|ng
28|half_h
28|k
28|open_e
34|_with_hook
40|retroflex_hook
28|r_with_fishhook
28|script_g
20|um
22|_rotunda
19|s
20|_with_acute
31|_and_dot_above
26|caron
31|_and_dot_above
27|edilla
27|ircumflex
27|omma_below
27|url
26|dot_above
30|below
35|_and_dot_above
26|hook
26|middle_tilde
26|oblique_stroke
26|palatal_hook
26|short_stroke_overlay
27|wash_tail
20|akha_yat
21|ltillo
20|chwa
24|_with_hook
30|retroflex_hook
21|ript_g
27|_with_crossed-tail
26|r
27|_with_ring
20|harp_s
20|ideways_diaeresized_u
28|o
29|_with_stroke
29|pen_o
28|turned_m
28|u
21|gmoid_s
20|quat_reversed_esh
20|tirrup_r
19|t
20|_with_caron
27|edilla
27|ircumflex_below
27|omma_below
27|url
26|diaeresis
29|gonal_stroke
27|ot_above
30|below
26|hook
30|_and_retroflex_hook
26|line_below
26|middle_tilde
26|palatal_hook
26|retroflex_hook
26|stroke
20|ailless_phi
20|c_digraph_with_curl
20|esh_digraph
31|_with_palatal_hook
37|retroflex_hook
20|h_with_strikethrough
21|orn
24|_with_stroke
36|_through_descender
20|one_five
24|six
24|two
21|p_half_o
20|resillo
20|s_digraph
29|_with_retroflex_hook
20|um
21|rned_a
27|e
27|lpha
26|delta
26|e
26|g
26|h
27|_with_fishhook
41|_and_tail
26|i
27|nsular_g
26|k
26|l
26|m
27|_with_long_leg
26|o_open-o
34|_with_stroke
27|e
28|_with_horizontal_stroke
34|stroke
27|pen_e
26|r
27|_with_hook
33|long_leg
41|_and_retroflex_hook
33|middle_tilde
33|palatal_hook
33|tail
26|t
27|_with_curl
26|ui
26|v
26|w
26|y
27|_with_belt
20|z
19|u
20|_bar
24|_with_short_right_leg
21|with_acute
26|breve
26|caron
27|ircumflex
36|_below
26|diaeresis
35|_and_acute
40|caron
40|grave
40|macron
36|below
27|ot_below
28|uble_acute
33|grave
26|grave
26|hook_above
28|rn
30|_and_acute
35|dot_below
35|grave
35|hook_above
35|tilde
26|inverted_breve
26|left_hook
26|macron
32|_and_diaeresis
26|ogonek
26|retroflex_hook
27|ing_above
26|short_right_leg
27|troke
26|tilde
31|_and_acute
32|below
20|e
20|i
20|m
20|o
20|psilon
26|_with_stroke
19|v
20|_with_curl
26|diagonal_stroke
27|ot_below
26|hook
26|palatal_hook
26|right_hook
26|tilde
20|end
20|isigothic_z
20|olapuk_ae
27|oe
27|ue
20|y
19|w
20|_with_acute
26|circumflex
26|diaeresis
27|ot_above
30|below
26|grave
26|hook
26|ring_above
19|x
20|_with_diaeresis
27|ot_above
26|long_left_leg
39|_and_low_right_ring
40|with_serif
28|w_right_ring
26|palatal_hook
19|y
20|_with_acute
26|circumflex
26|diaeresis
27|ot_above
30|below
26|grave
26|hook
30|_above
26|loop
26|macron
26|ring_above
26|short_right_leg
27|troke
26|tilde
20|ogh
19|z
20|_with_acute
26|caron
27|ircumflex
27|url
26|descender
27|ot_above
30|below
26|hook
26|line_below
26|middle_tilde
26|palatal_hook
26|retroflex_hook
26|stroke
27|wash_tail
13|igature_ff
23|i
23|l
22|i
22|l
21|ij
21|long_s_t
21|oe
21|st
7|ubscript_small_letter_a
29|e
29|h
29|i
29|j
29|k
29|l
29|m
29|n
29|o
29|p
29|r
29|s
30|chwa
29|t
29|u
29|v
29|x
1|eaf_fluttering_in_wind
4|y_green
2|dger
2|ft-facing_armenian_eternity_sign
12|fist
12|svasti_sign
23|_with_dots
5|handed_interlaced_pentagram
5|pointing_angle_bracket
14|curved_angle_bracket
14|double_angle_quotation_mark
14|magnifying_glass
5|shaded_white_rightwards_arrow
6|ide_arc_anticlockwise_arrow
5|to-right_embedding
14|isolate
14|mark
14|override
4|_and_lower_and_right_triangular_three_quarters_block
15|one_eighth_block
9|right_double_turnstile
15|tack
16|riangular_half_block
9|upper_and_right_triangular_three_quarters_block
15|one_eighth_block
7|ger_bubble
8|le_bracket
18|_with_dot
6|rc_less-than_bracket
7|row_with_circled_plus
16|small_circle
5|barb_down_right_barb_down_harpoon
26|up_harpoon
10|up_right_barb_down_harpoon
24|up_harpoon
6|lack_lenticular_bracket
11|tortoise_shell_bracket
5|ceiling
6|losed_entry
6|orner_bracket
6|urly_bracket
18|_lower_hook
19|middle_piece
19|upper_hook
5|dotted_substitution_bracket
7|uble_angle_bracket
12|parenthesis
12|quotation_mark
12|wiggly_fence
5|fish_tail
7|ve_eighths_block
6|loor
5|half_black_circle
16|star
12|ock
10|circle
16|_with_dot
22|four_dots
22|three_dots
23|wo_dots
10|folder
10|inverse_medium_shade_and_right_half_block
10|medium_shade
10|running_man
7|nd_telephone_receiver
5|low_paraphrase_bracket
6|uggage
5|multimap
5|normal_factor_semidirect_product
5|one_eighth_block
9|quarter_block
6|uter_join
5|parenthesis
16|_extension
17|lower_hook
17|upper_hook
5|raised_omission_bracket
6|ight_arrow
16|_through_small_circle
17|with_double_vertical_stroke
22|stroke
22|vertical_stroke
11|black_arrow
11|double_arrow
23|_with_stroke
29|vertical_stroke
11|open-headed_arrow
11|sans-serif_arrow
11|triangle-headed_arrow
11|wave_arrow
12|hite_arrow
5|s-shaped_bag_delimiter
6|emidirect_product
7|ven_eighths_block
6|ideways_u_bracket
7|ngle_quotation_mark
6|peech_bubble
6|quare_bracket
19|_extension
20|lower_corner
20|upper_corner
20|with_double_stroke
25|quill
25|stroke
25|tick_in_bottom_corner
33|top_corner
25|underbar
6|ubstitution_bracket
5|tack
6|hird_white_right_pointing_index
7|ought_bubble
7|ree_eighths_block
11|quarters_block
6|ortoise_shell_bracket
6|ransposition_bracket
7|iangle_beside_vertical_bar
11|ular_one_quarter_block
5|vertical_bar_with_quill
15|ox_line
5|white_corner_bracket
12|urly_bracket
11|lenticular_bracket
11|parenthesis
11|square_bracket
11|tortoise_shell_bracket
6|iggly_fence
6|riting_hand
4|wards_arrow
15|-tail
15|_above_almost_equal_to
22|reverse_almost_equal_to
30|tilde_operator
22|short_rightwards_arrow
22|tilde_operator
17|nd_upper_and_lower_one_eighth_block
16|from_bar
24|_to_black_diamond
16|over_rightwards_arrow
16|through_less-than
24|subset
24|x
17|o_bar
22|_over_rightwards_arrow_to_bar
20|lack_diamond
16|with_dotted_stem
23|uble_vertical_stroke
21|equilateral_arrowhead
21|hook
21|large_triangle_arrowhead
22|oop
21|medium_triangle_arrowhead
21|notched_tail
21|plus_below
21|small_equilateral_arrowhead
27|triangle_arrowhead
22|troke
21|tail
25|_with_double_vertical_stroke
31|vertical_stroke
22|ip_downwards
25|upwards
21|vertical_stroke
10|back-tilted_shadowed_white_arrow
11|lack_arrow
16|circled_white_arrow
11|ottom-shaded_white_arrow
10|compressed_arrow
10|dashed_arrow
11|ouble_arrow
22|-tail
22|_from_bar
23|with_stroke
28|vertical_stroke
17|dash_arrow
10|finger-post_arrow
11|ront-tilted_shadowed_white_arrow
10|hand
12|rpoon_over_rightwards_harpoon
18|with_barb_down_above_rightwards_harpoon_with_barb_down
33|below_long_dash
33|from_bar
33|to_bar
32|wards
28|up_above_leftwards_harpoon_with_barb_down
38|ong_dash
37|rightwards_harpoon_with_barb_up
31|from_bar
31|to_bar
30|wards
11|eavy_arrow
16|compressed_arrow
10|left-shaded_white_arrow
10|open-headed_arrow
10|paired_arrows
10|quadruple_arrow
10|right-shaded_white_arrow
11|ocket
10|sans-serif_arrow
11|quared_arrow
13|iggle_arrow
10|top_shaded_white_arrow
11|riangle-headed_arrow
31|_over_rightwards_triangle-headed_arrow
32|to_bar
32|with_bold_shaft
37|double_horizontal_stroke
44|vertical_stroke
37|heavy_shaft
37|long_tip_downwards
46|upwards
37|medium_shaft
37|narrow_shaft
37|very_heavy_shaft
26|dashed_arrow
26|paired_arrows
18|_arrowhead
13|ple_arrow
17|dash_arrow
11|wo-headed_arrow_from_bar
27|with_double_vertical_stroke
32|tail
36|_with_double_vertical_stroke
42|vertical_stroke
33|riangle_arrowheads
32|vertical_stroke
21|triple_dash_arrow
13|_headed_arrow
10|wave_arrow
11|hite_arrow
21|_within_triangle_arrowhead
2|g
2|mon
2|o
3|pard
2|pcha_consonant_sign_k
23|ang
22|l
22|m
22|n
23|yin-do
22|p
22|r
22|t
7|digit_eight
13|five
14|our
13|nine
13|one
13|seven
14|ix
13|three
14|wo
13|zero
7|letter_a
14|ba
15|la
14|ca
15|ha
14|da
15|da
15|za
14|fa
15|la
14|ga
15|la
14|ha
15|la
14|ja
14|ka
15|ha
15|la
14|la
14|ma
15|la
14|na
15|ga
15|ya
14|pa
15|ha
15|la
14|ra
14|sa
15|ha
14|ta
15|ha
15|sa
16|ha
15|ta
16|ha
14|va
14|wa
14|ya
7|punctuation_cer-wa
19|nyet_thyoom_ta-rol
19|ta-rol
20|shook
25|_cer-wa
7|sign_nukta
12|ran
8|ubjoined_letter_ra
24|ya
7|vowel_sign_aa
18|e
18|i
18|o
19|o
18|u
19|u
2|ss-than_above_double-line_equal_above_greater-than
16|greater-than_above_double-line_equal
16|leftwards_arrow
16|similar_above_greater-than
24|or_equal
17|lanted_equal_above_greater-than_above_slanted_equal
11|nd_not_approximate
14|single-line_not_equal_to
10|but_not_equal_to
21|ivalent_to
10|closed_by_curve
25|_above_slanted_equal
10|equal_to_or_greater-than
10|or_approximate
13|equal_to
16|ivalent_to
13|greater-than
13|slanted_equal_to
29|_with_dot_above
44|_right
39|inside
11|ver_equal_to
10|sign
10|with_circle_inside
15|dot
15|question_mark_above
2|vel_slider
1|f
1|ibra
2|gature_open_et_ornament
3|ht_check_mark
6|eight_spoked_asterisk
6|five_pointed_black_star
11|spoked_asterisk
7|our_pointed_black_cusp
25|star
6|greek_cross
6|left_tortoise_shell_bracket_ornament
6|rail
7|ight_tortoise_shell_bracket_ornament
6|saltire
7|hade
7|ix_spoked_asterisk
6|three_pointed_black_star
7|welve_pointed_black_star
6|vertical_bar
6|white_square
5|ning
9|_mood
14|_bubble
2|mbu_digit_eight
12|five
13|our
12|nine
12|one
12|seven
13|ix
12|three
13|wo
12|zero
6|exclamation_mark
6|letter_ba
14|ha
13|ca
14|ha
13|da
14|ha
13|ga
14|ha
14|yan
13|ha
13|ja
14|ha
13|ka
14|ha
13|la
13|ma
13|na
14|ga
13|pa
14|ha
13|ra
13|sa
14|ha
14|sa
13|ta
14|ha
14|ra
13|wa
13|ya
15|n
6|question_mark
6|sign_kemphreng
11|loo
11|mukphreng
11|sa-i
7|mall_letter_anusvara
19|ka
19|la
19|ma
19|na
20|ga
19|pa
19|ra
19|ta
7|ubjoined_letter_ra
23|wa
23|ya
6|vowel-carrier_letter
11|_sign_a
18|i
18|u
17|e
18|e
17|i
17|o
18|o
17|u
3|ited_liability_sign
2|ne_feed
5|integration_not_including_the_pole
17|with_rectangular_path_around_pole
22|semicircular_path_around_pole
5|separator
5|tabulation
15|_set
4|ar_a_sign_a028b
15|100-102
16|20b
16|31c
15|301
17|2
17|3
17|4
17|5
17|6
17|7
17|8
17|9a
18|b
18|c
16|10
17|1
17|2
17|3a
18|b
18|c
17|4
17|5
17|6
17|7
17|8
17|9
16|20
17|1
17|2
17|3
17|4
17|5
17|6
17|7
17|8
17|9
16|30
17|1
17|2
17|3
17|4
17|5
17|6
17|7
17|8
17|9
16|40
17|1
17|2
17|3
17|4
17|5
17|6
17|7
17|8
17|9
16|50
17|1
17|2
17|3
17|4
17|5
17|6
17|7
17|8
17|9
16|60
17|1
17|2
17|3
17|4
17|5
17|6
17|7
17|8
17|9
16|70
17|1
15|400-vas
17|1-vas
17|2-vas
17|3-vas
17|4-vas
17|5-vas
17|6-vas
17|7-vas
17|8-vas
17|9-vas
16|10-vas
17|1-vas
17|2-vas
17|3-vas
17|4-vas
17|5-vas
17|6-vas
17|7-vas
17|8-vas
15|501
17|2
17|3
17|4
17|5
17|6
17|8
17|9
16|10
17|1
17|2
17|3
17|5
17|6
16|20
17|1
17|3
17|4
17|5
17|6
17|7
17|8
17|9
16|30
17|1
17|2
17|4
17|5
17|6
17|7
17|8
17|9
16|40
17|1
17|2
17|5
17|7
17|8
17|9
16|50
17|1
17|2
17|3
17|4
17|5
17|6
17|7
17|9
16|63
17|4
17|5
17|6
17|8
17|9
16|70
17|1
17|2
17|3
17|4
17|5
17|6
17|7
17|8
17|9
16|80
17|1
17|2
17|3
17|4
17|5
17|6
17|7
17|8
17|9
16|91
17|2
17|4
17|5
17|6
17|8
15|600
17|1
17|2
17|3
17|4
17|6
17|8
17|9
16|10
17|1
17|2
17|3
17|4
17|5
17|6
17|7
17|8
17|9
16|20
17|1
17|2
17|3
17|4
17|6
17|7
17|8
17|9
16|34
17|7
17|8
16|40
17|2
17|3
17|4
17|5
17|6
17|8
17|9
16|51
17|2
17|3
17|4
17|5
17|6
17|7
17|8
17|9
16|60
17|1
17|2
17|3
17|4
15|701_a
17|2_b
17|3_d
17|4_e
17|5_f
17|6_h
17|7_j
17|8_k
17|9-2_l2
19|3_l3
19|4_l4
19|6_l6
18|_l
16|10_w
17|1_x
17|2_y
17|3_omega
17|4_abb
17|5_bb
17|7_dd
16|26_eyyy
16|32_je
15|800
17|1
17|2
17|3
17|4
17|5
17|6
17|7
15|b001
18|2
18|3
18|4
18|5
18|6
18|7
18|8
18|9
17|10
18|1
18|3
18|6
18|7
17|20
18|1
19|f
19|m
18|2
19|f
19|m
18|3
19|m
18|4
18|6
18|7
18|8
18|9
17|30
18|1
18|4
18|7
18|8
18|9
17|40
18|1
18|4
18|5
18|6
18|7
18|8
18|9
17|50
18|1
18|3
18|4
18|5
18|6
18|7
18|8
18|9
17|60
18|1
18|5
18|6
18|7
18|9
17|70
18|3
18|4
18|6
18|7
18|8
18|9
17|80
18|1
18|2
18|5
18|6
18|7
16|118
17|20
18|2
18|3
17|31a
19|b
17|64
17|71
17|80
18|8
17|91
7|b_ideogram_b100_man
21|2_woman
21|4_deer
21|5_equid
22|f_mare
22|m_stallion
21|6f_ewe
22|m_ram
21|7f_she-goat
22|m_he-goat
21|8f_sow
22|m_boar
21|9f_cow
22|m_bull
20|20_wheat
21|1_barley
21|2_olive
21|3_spice
21|5_cyperus
20|30_oil
21|1_wine
21|2
20|40_bronze
21|1_gold
21|2
21|5_wool
21|6
20|50
21|1_horn
21|2
21|3
21|4
21|7
21|8
21|9_cloth
20|60
21|1
21|2_garment
21|3_armour
21|4
21|5
21|6
21|7
21|8
21|9
20|70
21|1
21|2
21|3_month
21|4
21|6_tree
21|7
21|8
21|9
20|80
21|1
21|2
21|3
21|4
21|5
21|9
20|90
21|1_helmet
19|220_footstool
21|5_bathtub
20|30_spear
21|1_arrow
21|2
21|3_sword
21|4
21|6
20|40_wheeled_chariot
21|1_chariot
21|2_chariot_frame
21|3_wheel
21|5
21|6
21|8
21|9
20|51
21|2
21|3
21|4_dart
21|5
21|6
21|7
21|8
21|9
18|vessel_b155
26|200
28|1
28|2
28|3
28|4
28|5
28|6
28|7
28|8
28|9
27|10
28|1
28|2
28|3
28|4
28|5
28|6
28|7
28|8
28|9
27|21
28|2
28|6
28|7
28|8
28|9
27|50
26|305
9|monogram_b127_kapo
21|8_kanako
20|33_arepa
21|5_meri
20|56_turo2
19|247_dipte
9|syllable_b001_da
21|2_ro
21|3_pa
21|4_te
21|5_to
21|6_na
21|7_di
21|8_a
21|9_se
20|10_u
21|1_po
21|2_so
21|3_me
21|4_do
21|5_mo
21|6_qa
21|7_za
20|20_zo
21|1_qi
21|3_mu
21|4_ne
21|5_a2
21|6_ru
21|7_re
21|8_i
21|9_pu2
20|30_ni
21|1_sa
21|2_qo
21|3_ra3
21|6_jo
21|7_ti
21|8_e
21|9_pi
20|40_wi
21|1_si
21|2_wo
21|3_a3
21|4_ke
21|5_de
21|6_je
21|8_nwa
20|50_pu
21|1_du
21|2_no
21|3_ri
21|4_wa
21|5_nu
21|7_ja
21|8_su
21|9_ta
20|60_ra
21|1_o
21|2_pte
21|5_ju
21|6_ta2
21|7_ki
21|8_ro2
21|9_tu
20|70_ko
21|1_dwe
21|2_pe
21|3_mi
21|4_ze
21|5_we
21|6_ra2
21|7_ka
21|8_qe
20|80_ma
21|1_ku
21|5_au
21|7_twe
20|90_dwo
21|1_two
11|mbol_b018
19|9
18|22
18|34
18|47
19|9
18|56
18|63
19|4
18|79
18|82
19|3
19|6
19|9
3|k_symbol
4|ed_paperclips
2|on_face
2|ps
4|tick
2|ra_sign
2|su_letter_a
13|e
12|ba
12|ca
13|ha
12|da
13|za
12|e
13|u
12|fa
12|ga
13|ha
12|ha
13|ha
12|i
12|ja
12|ka
13|ha
12|la
12|ma
12|na
13|ga
12|o
13|e
12|pa
13|ha
12|sa
13|ha
12|ta
13|ha
13|one_mya_bo
21|cya
21|jeu
21|na
21|ti
17|na_po
13|sa
14|ha
12|u
13|e
13|h
12|wa
12|xa
12|ya
13|ha
12|za
13|ha
5|punctuation_comma
17|full_stop
2|vre_tournois_sign
2|zard
1|lama
1|obster
2|ck
4|_with_ink_pen
4|ing-shift_one
14|zero
2|gical_and
11|_with_dot_above
19|uble_overbar
24|underbar
17|horizontal_dash
17|middle_stem
17|underbar
8|or
10|_overlapping_logical_and
11|with_dot_above
18|uble_overbar
23|underbar
16|horizontal_dash
16|middle_stem
2|llipop
2|ng_dash_from_left_member_of_double_vertical
6|ivision
6|rum
5|left_right_arrow
16|double_arrow
10|tack
9|wards_arrow
20|_from_bar
15|double_arrow
27|_from_bar
15|squiggle_arrow
5|right_tack
10|wards_arrow
21|_from_bar
16|double_arrow
28|_from_bar
16|squiggle_arrow
2|tion_bottle
3|us
2|udly_crying_face
2|ve_hotel
5|letter
2|w_asterisk
4|battery
5|rightness_symbol
4|double_prime_quotation_mark
4|kavyka
10|_with_dot
4|line
3|er_blade_scissors
6|five_eighths_block
6|half_block
11|circle
11|inverse_white_circle
11|medium_shade
6|left_ballpoint_pen
12|lock_diagonal_lower_middle_left_to_lower_centre
53|right
26|upper_centre_to_lower_middle_right
48|right
42|upper_middle_right
32|left_to_lower_centre
46|middle_right
40|upper_middle_right
32|middle_left_to_lower_centre
53|middle_right
53|right
11|crayon
11|fountain_pen
11|paintbrush
12|encil
11|quadrant_circular_arc
11|semicircular_anticlockwise_arrow
11|triangle
17|ular_medium_shade
6|one_eighth_block
10|quarter_block
6|right_block_diagonal_lower_centre_to_lower_middle_right
43|upper_middle_right
49|right
33|left_to_lower_middle_right
41|upper_centre
47|middle_right
33|middle_left_to_upper_centre
54|middle_right
54|right
27|upper_middle_left_to_upper_centre
54|right
12|corner_with_dot
12|drop-shadowed_white_square
12|pencil
12|quadrant_circular_arc
12|semicircular_clockwise_arrow
13|hadowed_white_circle
27|square
12|triangle
18|ular_medium_shade
6|seven_eighths_block
6|three_eighths_block
12|quarters_block
7|riangular_one_quarter_block
2|zenge
7|_divided_by_horizontal_rule
1|re
2|i
2|m
2|o
1|uggage
2|ngs
1|ycian_letter_a
15|n
14|b
15|h
14|d
14|e
15|n
14|g
14|h
14|i
14|j
14|k
15|k
14|l
14|m
15|m
14|n
15|n
14|p
14|q
14|r
14|s
14|t
15|h
15|t
14|u
14|w
14|x
14|z
2|dian_letter_a
15|n
14|b
14|c
14|d
14|e
15|n
14|f
14|g
14|i
14|k
14|l
15|y
14|m
14|n
15|n
14|o
14|q
14|r
14|s
15|s
14|t
15|t
14|u
14|v
14|y
7|triangular_mark
2|ing_face
0|macron
2|ge
3|ic_wand
3|net
2|hajani_abbreviation_sign
9|letter_a
16|ba
17|ha
16|ca
17|ha
16|da
17|da
18|ha
17|ha
16|e
16|ga
17|ha
16|ha
16|i
16|ja
17|ha
16|ka
17|ha
16|la
16|ma
16|na
17|na
17|ya
16|o
16|pa
17|ha
16|ra
17|ra
16|sa
16|ta
17|ha
17|ta
18|ha
16|u
16|va
10|igature_shri
9|section_mark
10|ign_nukta
3|jong_tile_autumn
13|back
15|mboo
13|chrysanthemum
13|east_wind
14|ight_of_bamboos
22|characters
23|ircles
13|five_of_bamboos
21|characters
22|ircles
14|our_of_bamboos
21|characters
22|ircles
13|green_dragon
13|joker
13|nine_of_bamboos
21|characters
22|ircles
14|orth_wind
13|one_of_bamboos
20|characters
21|ircles
14|rchid
13|plum
13|red_dragon
13|seven_of_bamboos
22|characters
23|ircles
14|ix_of_bamboos
20|characters
21|ircles
14|outh_wind
14|pring
14|ummer
13|three_of_bamboos
22|characters
23|ircles
14|wo_of_bamboos
20|characters
21|ircles
13|west_wind
14|hite_dragon
14|inter
2|kasar_angka
8|end_of_section
8|letter_a
15|ba
15|ca
15|da
15|ga
15|ja
15|ka
15|la
15|ma
15|na
16|ga
16|ya
15|pa
15|ra
15|sa
15|ta
15|va
15|ya
8|passimbang
8|vowel_sign_e
19|i
19|o
19|u
2|layalam_au_length_mark
10|date_mark
11|igit_eight
16|five
17|our
16|nine
16|one
16|seven
17|ix
16|three
17|wo
16|zero
10|fraction_one_eighth
23|fifth
24|ortieth
23|half
23|one-hundred-and-sixtieth
23|quarter
23|sixteenth
23|tenth
24|wentieth
19|three_eightieths
25|quarters
25|sixteenths
25|twentieths
10|letter_a
18|a
18|i
18|rchaic_ii
18|u
17|ba
18|ha
17|ca
18|ha
19|illu_k
24|l
25|l
26|l
24|m
24|n
25|n
24|rr
24|y
17|da
18|da
19|ha
18|ha
18|ot_reph
17|e
18|e
17|ga
18|ha
17|ha
17|i
18|i
17|ja
18|ha
17|ka
18|ha
17|la
18|la
19|la
17|ma
17|na
18|ga
18|na
19|na
18|ya
17|o
18|o
17|pa
18|ha
17|ra
18|ra
17|sa
18|ha
18|sa
17|ta
18|ha
18|ta
19|ha
19|ta
17|u
18|u
17|va
18|edic_anusvara
18|ocalic_l
26|l
25|r
26|r
17|ya
10|number_one_hundred
21|thousand
17|ten
10|sign_anusvara
16|vagraha
15|candrabindu
16|ircular_virama
16|ombining_anusvara_above
15|para
15|vertical_bar_virama
16|irama
17|sarga
10|vowel_sign_aa
22|i
22|u
21|e
22|e
21|i
22|i
21|o
22|o
21|u
22|u
21|vocalic_l
30|l
29|r
30|r
3|e_and_female_sign
5|sign
5|with_stroke_and_male_and_female_sign
17|sign
3|tese_cross
2|mmoth
2|n
3|_and_woman_holding_hands
4|dancing
4|in_business_suit_levitating
7|tuxedo
4|with_gua_pi_mao
9|turban
3|at_sign
3|daic_affrication_mark
8|gemination_mark
8|letter_ab
16|d
16|g
16|h
16|in
16|k
17|sa
16|l
16|m
16|n
16|p
16|q
16|r
16|s
17|h
17|z
16|t
17|t
16|z
15|dushenna
15|halqa
15|in
16|t
15|kad
15|ushenna
8|punctuation
8|vocalization_mark
3|go
3|ichaean_abbreviation_mark_above
29|below
11|letter_aayin
19|leph
19|yin
18|beth
19|heth
18|daleth
19|hamedh
18|fe
18|ghimel
19|imel
18|he
20|th
18|jayin
19|hayin
18|kaph
19|haph
18|lamedh
18|mem
18|nun
18|pe
18|qhoph
19|oph
18|resh
18|sadhe
20|mekh
19|hin
19|shin
18|taw
19|eth
19|hamedh
18|waw
18|xaph
19|oph
18|yodh
18|zayin
19|hayin
11|number_five
18|one
21|_hundred
18|ten
19|wenty
11|punctuation_dot
26|_within_dot
25|uble_dot_within_dot
23|fleuron
23|line_filler
23|star
23|two_dots
11|sign_ud
3|s_shoe
3|telpiece_clock
3|ual_wheelchair
2|p_symbol_for_lighthouse
3|le_leaf
2|rchen_head_mark
8|letter_-a
15|a
15|ba
15|ca
16|ha
15|da
16|za
15|ga
15|ha
15|ja
15|ka
16|ha
15|la
15|ma
15|na
16|ga
16|ya
15|pa
16|ha
15|ra
15|sa
16|ha
15|ta
16|ha
16|sa
17|ha
15|wa
15|ya
15|za
16|ha
8|mark_shad
8|sign_anusvara
13|candrabindu
9|ubjoined_letter_a
25|ba
25|ca
26|ha
25|da
26|za
25|ga
25|ha
25|ja
25|ka
26|ha
25|la
25|ma
25|na
26|ga
26|ya
25|pa
26|ha
25|ra
25|sa
26|ha
25|ta
26|ha
26|sa
27|ha
25|wa
25|ya
25|za
26|ha
8|vowel_sign_aa
19|e
19|i
19|o
19|u
3|riage_symbol
3|tial_arts_uniform
2|saram_gondi_digit_eight
20|five
21|our
20|nine
20|one
20|seven
21|ix
20|three
21|wo
20|zero
14|letter_a
22|a
22|i
22|u
21|ba
22|ha
21|ca
22|ha
21|da
22|da
23|ha
22|ha
21|e
21|ga
22|ha
21|ha
21|i
22|i
21|ja
22|ha
22|nya
21|ka
22|ha
22|ssa
21|la
22|la
21|ma
21|na
22|ga
22|na
22|ya
21|o
21|pa
22|ha
21|ra
21|sa
22|ha
22|sa
21|ta
22|ha
22|ra
22|ta
23|ha
21|u
22|u
21|va
21|ya
14|ra-kara
15|epha
14|sign_anusvara
19|candra
19|halanta
19|nukta
19|visarga
14|virama
15|owel_sign_aa
26|i
26|u
25|e
25|i
26|i
25|o
25|u
26|u
25|vocalic_r
3|culine_ordinal_indicator
3|k_work_symbol
3|u_mark
2|te_drink
3|hematical_bold_capital_a
27|lpha
26|b
27|eta
26|c
27|hi
26|d
27|elta
27|igamma
26|e
27|psilon
27|ta
26|f
26|g
27|amma
26|h
26|i
27|ota
26|j
26|k
27|appa
26|l
27|amda
26|m
27|u
26|n
27|u
26|o
27|mega
28|icron
26|p
27|hi
27|i
27|si
26|q
26|r
27|ho
26|s
27|igma
26|t
27|au
27|heta
31|_symbol
26|u
27|psilon
26|v
26|w
26|x
27|i
26|y
26|z
27|eta
18|digit_eight
24|five
25|our
24|nine
24|one
24|seven
25|ix
24|three
25|wo
24|zero
18|epsilon_symbol
18|fraktur_capital_a
34|b
34|c
34|d
34|e
34|f
34|g
34|h
34|i
34|j
34|k
34|l
34|m
34|n
34|o
34|p
34|q
34|r
34|s
34|t
34|u
34|v
34|w
34|x
34|y
34|z
26|small_a
32|b
32|c
32|d
32|e
32|f
32|g
32|h
32|i
32|j
32|k
32|l
32|m
32|n
32|o
32|p
32|q
32|r
32|s
32|t
32|u
32|v
32|w
32|x
32|y
32|z
18|italic_capital_a
34|lpha
33|b
34|eta
33|c
34|hi
33|d
34|elta
33|e
34|psilon
34|ta
33|f
33|g
34|amma
33|h
33|i
34|ota
33|j
33|k
34|appa
33|l
34|amda
33|m
34|u
33|n
34|u
33|o
34|mega
35|icron
33|p
34|hi
34|i
34|si
33|q
33|r
34|ho
33|s
34|igma
33|t
34|au
34|heta
38|_symbol
33|u
34|psilon
33|v
33|w
33|x
34|i
33|y
33|z
34|eta
25|epsilon_symbol
25|kappa_symbol
25|nabla
25|partial_differential
26|hi_symbol
26|i_symbol
25|rho_symbol
25|small_a
32|lpha
31|b
32|eta
31|c
32|hi
31|d
32|elta
31|e
32|psilon
32|ta
31|f
32|inal_sigma
31|g
32|amma
31|h
31|i
32|ota
31|j
31|k
32|appa
31|l
32|amda
31|m
32|u
31|n
32|u
31|o
32|mega
33|icron
31|p
32|hi
32|i
32|si
31|q
31|r
32|ho
31|s
32|igma
31|t
32|au
32|heta
31|u
32|psilon
31|v
31|w
31|x
32|i
31|y
31|z
32|eta
25|theta_symbol
18|kappa_symbol
18|nabla
18|partial_differential
19|hi_symbol
19|i_symbol
18|rho_symbol
18|script_capital_a
33|b
33|c
33|d
33|e
33|f
33|g
33|h
33|i
33|j
33|k
33|l
33|m
33|n
33|o
33|p
33|q
33|r
33|s
33|t
33|u
33|v
33|w
33|x
33|y
33|z
25|small_a
31|b
31|c
31|d
31|e
31|f
31|g
31|h
31|i
31|j
31|k
31|l
31|m
31|n
31|o
31|p
31|q
31|r
31|s
31|t
31|u
31|v
31|w
31|x
31|y
31|z
19|mall_a
25|lpha
24|b
25|eta
24|c
25|hi
24|d
25|elta
25|igamma
24|e
25|psilon
25|ta
24|f
25|inal_sigma
24|g
25|amma
24|h
24|i
25|ota
24|j
24|k
25|appa
24|l
25|amda
24|m
25|u
24|n
25|u
24|o
25|mega
26|icron
24|p
25|hi
25|i
25|si
24|q
24|r
25|ho
24|s
25|igma
24|t
25|au
25|heta
24|u
25|psilon
24|v
24|w
24|x
25|i
24|y
24|z
25|eta
18|theta_symbol
13|double-struck_capital_a
35|b
35|d
35|e
35|f
35|g
35|i
35|j
35|k
35|l
35|m
35|o
35|s
35|t
35|u
35|v
35|w
35|x
35|y
27|digit_eight
33|five
34|our
33|nine
33|one
33|seven
34|ix
33|three
34|wo
33|zero
27|small_a
33|b
33|c
33|d
33|e
33|f
33|g
33|h
33|i
33|j
33|k
33|l
33|m
33|n
33|o
33|p
33|q
33|r
33|s
33|t
33|u
33|v
33|w
33|x
33|y
33|z
13|falling_diagonal
14|raktur_capital_a
29|b
29|d
29|e
29|f
29|g
29|j
29|k
29|l
29|m
29|n
29|o
29|p
29|q
29|s
29|t
29|u
29|v
29|w
29|x
29|y
21|small_a
27|b
27|c
27|d
27|e
27|f
27|g
27|h
27|i
27|j
27|k
27|l
27|m
27|n
27|o
27|p
27|q
27|r
27|s
27|t
27|u
27|v
27|w
27|x
27|y
27|z
13|italic_capital_a
29|lpha
28|b
29|eta
28|c
29|hi
28|d
29|elta
28|e
29|psilon
29|ta
28|f
28|g
29|amma
28|h
28|i
29|ota
28|j
28|k
29|appa
28|l
29|amda
28|m
29|u
28|n
29|u
28|o
29|mega
30|icron
28|p
29|hi
29|i
29|si
28|q
28|r
29|ho
28|s
29|igma
28|t
29|au
29|heta
33|_symbol
28|u
29|psilon
28|v
28|w
28|x
29|i
28|y
28|z
29|eta
20|epsilon_symbol
20|kappa_symbol
20|nabla
20|partial_differential
21|hi_symbol
21|i_symbol
20|rho_symbol
20|small_a
27|lpha
26|b
27|eta
26|c
27|hi
26|d
27|elta
27|otless_i
34|j
26|e
27|psilon
27|ta
26|f
27|inal_sigma
26|g
27|amma
26|i
27|ota
26|j
26|k
27|appa
26|l
27|amda
26|m
27|u
26|n
27|u
26|o
27|mega
28|icron
26|p
27|hi
27|i
27|si
26|q
26|r
27|ho
26|s
27|igma
26|t
27|au
27|heta
26|u
27|psilon
26|v
26|w
26|x
27|i
26|y
26|z
27|eta
20|theta_symbol
13|left_angle_bracket
18|double_angle_bracket
18|flattened_parenthesis
18|white_square_bracket
24|tortoise_shell_bracket
13|monospace_capital_a
31|b
31|c
31|d
31|e
31|f
31|g
31|h
31|i
31|j
31|k
31|l
31|m
31|n
31|o
31|p
31|q
31|r
31|s
31|t
31|u
31|v
31|w
31|x
31|y
31|z
23|digit_eight
29|five
30|our
29|nine
29|one
29|seven
30|ix
29|three
30|wo
29|zero
23|small_a
29|b
29|c
29|d
29|e
29|f
29|g
29|h
29|i
29|j
29|k
29|l
29|m
29|n
29|o
29|p
29|q
29|r
29|s
29|t
29|u
29|v
29|w
29|x
29|y
29|z
13|right_angle_bracket
19|double_angle_bracket
19|flattened_parenthesis
19|white_square_bracket
25|tortoise_shell_bracket
15|sing_diagonal
13|sans-serif_bold_capital_a
38|lpha
37|b
38|eta
37|c
38|hi
37|d
38|elta
37|e
38|psilon
38|ta
37|f
37|g
38|amma
37|h
37|i
38|ota
37|j
37|k
38|appa
37|l
38|amda
37|m
38|u
37|n
38|u
37|o
38|mega
39|icron
37|p
38|hi
38|i
38|si
37|q
37|r
38|ho
37|s
38|igma
37|t
38|au
38|heta
42|_symbol
37|u
38|psilon
37|v
37|w
37|x
38|i
37|y
37|z
38|eta
29|digit_eight
35|five
36|our
35|nine
35|one
35|seven
36|ix
35|three
36|wo
35|zero
29|epsilon_symbol
29|italic_capital_a
45|lpha
44|b
45|eta
44|c
45|hi
44|d
45|elta
44|e
45|psilon
45|ta
44|f
44|g
45|amma
44|h
44|i
45|ota
44|j
44|k
45|appa
44|l
45|amda
44|m
45|u
44|n
45|u
44|o
45|mega
46|icron
44|p
45|hi
45|i
45|si
44|q
44|r
45|ho
44|s
45|igma
44|t
45|au
45|heta
49|_symbol
44|u
45|psilon
44|v
44|w
44|x
45|i
44|y
44|z
45|eta
36|epsilon_symbol
36|kappa_symbol
36|nabla
36|partial_differential
37|hi_symbol
37|i_symbol
36|rho_symbol
36|small_a
43|lpha
42|b
43|eta
42|c
43|hi
42|d
43|elta
42|e
43|psilon
43|ta
42|f
43|inal_sigma
42|g
43|amma
42|h
42|i
43|ota
42|j
42|k
43|appa
42|l
43|amda
42|m
43|u
42|n
43|u
42|o
43|mega
44|icron
42|p
43|hi
43|i
43|si
42|q
42|r
43|ho
42|s
43|igma
42|t
43|au
43|heta
42|u
43|psilon
42|v
42|w
42|x
43|i
42|y
42|z
43|eta
36|theta_symbol
29|kappa_symbol
29|nabla
29|partial_differential
30|hi_symbol
30|i_symbol
29|rho_symbol
29|small_a
36|lpha
35|b
36|eta
35|c
36|hi
35|d
36|elta
35|e
36|psilon
36|ta
35|f
36|inal_sigma
35|g
36|amma
35|h
35|i
36|ota
35|j
35|k
36|appa
35|l
36|amda
35|m
36|u
35|n
36|u
35|o
36|mega
37|icron
35|p
36|hi
36|i
36|si
35|q
35|r
36|ho
35|s
36|igma
35|t
36|au
36|heta
35|u
36|psilon
35|v
35|w
35|x
36|i
35|y
35|z
36|eta
29|theta_symbol
24|capital_a
32|b
32|c
32|d
32|e
32|f
32|g
32|h
32|i
32|j
32|k
32|l
32|m
32|n
32|o
32|p
32|q
32|r
32|s
32|t
32|u
32|v
32|w
32|x
32|y
32|z
24|digit_eight
30|five
31|our
30|nine
30|one
30|seven
31|ix
30|three
31|wo
30|zero
24|italic_capital_a
39|b
39|c
39|d
39|e
39|f
39|g
39|h
39|i
39|j
39|k
39|l
39|m
39|n
39|o
39|p
39|q
39|r
39|s
39|t
39|u
39|v
39|w
39|x
39|y
39|z
31|small_a
37|b
37|c
37|d
37|e
37|f
37|g
37|h
37|i
37|j
37|k
37|l
37|m
37|n
37|o
37|p
37|q
37|r
37|s
37|t
37|u
37|v
37|w
37|x
37|y
37|z
24|small_a
30|b
30|c
30|d
30|e
30|f
30|g
30|h
30|i
30|j
30|k
30|l
30|m
30|n
30|o
30|p
30|q
30|r
30|s
30|t
30|u
30|v
30|w
30|x
30|y
30|z
14|cript_capital_a
28|c
28|d
28|g
28|j
28|k
28|n
28|o
28|p
28|q
28|s
28|t
28|u
28|v
28|w
28|x
28|y
28|z
20|small_a
26|b
26|c
26|d
26|f
26|h
26|i
26|j
26|k
26|l
26|m
26|n
26|p
26|q
26|r
26|s
26|t
26|u
26|v
26|w
26|x
26|y
26|z
2|ximize
2|yan_numeral_eight
19|een
15|leven
14|fifteen
16|ve
15|our
18|teen
14|nine
18|teen
14|one
14|seven
19|teen
15|ix
17|teen
14|ten
15|hirteen
16|ree
15|welve
16|o
14|zero
1|easured_angle
14|_opening_left
15|with_open_arm_ending_in_arrow_pointing_down_and_left
63|right
54|left_and_down
63|up
54|right_and_down
64|up
54|up_and_left
61|right
9|by
9|right_angle_with_dot
3|t_on_bone
2|chanical_arm
11|leg
2|defaidrin_capital_letter_a
28|i
28|tiu
27|b
27|c
27|d
27|e
27|f
27|g
27|h
28|p
27|i
27|j
27|k
28|p
27|l
27|m
27|n
28|g
28|y
27|o
28|e
27|p
27|q
27|r
27|s
27|t
27|u
27|v
27|w
27|x
27|y
28|u
27|z
13|omma
12|digit_eight
18|five
19|our
18|nine
18|one
21|_alternate_form
18|seven
19|ix
18|three
23|_alternate_form
19|wo
21|_alternate_form
18|zero
12|exclamation_oh
12|full_stop
12|number_eighteen
20|leven
19|fifteen
20|ourteen
19|nineteen
19|seventeen
20|ixteen
19|ten
20|hirteen
20|welve
12|small_letter_a
26|i
26|tiu
25|b
25|c
25|d
25|e
25|f
25|g
25|h
26|p
25|i
25|j
25|k
26|p
25|l
25|m
25|n
26|g
26|y
25|o
26|e
25|p
25|q
25|r
25|s
25|t
25|u
25|v
25|w
25|x
25|y
26|u
25|z
13|ymbol_aiva
3|ieval_comma
9|exclamation_mark
9|question_mark
4|um_black_circle
8|old_white_circle
7|eight_pointed_black_star
13|spoked_asterisk
7|five_spoked_asterisk
8|lattened_left_parenthesis_ornament
17|right_parenthesis_ornament
8|our_pointed_black_star
20|pinwheel_star
7|greek_cross
7|left-pointing_angle_bracket_ornament
11|_curly_bracket_ornament
12|parenthesis_ornament
7|mathematical_space
7|right-pointing_angle_bracket_ornament
12|_curly_bracket_ornament
13|parenthesis_ornament
7|saltire
8|hade
8|ix_pointed_black_star
11|spoked_asterisk
8|mall_white_circle
7|three_pointed_black_star
21|pinwheel_star
7|vertical_bar
7|white_circle
13|square
2|etei_mayek_ahang_khudam
14|nji
14|pun_iyek
13|cheikhan
19|ei
13|digit_eight
19|five
20|our
19|nine
19|one
19|seven
20|ix
19|three
20|wo
19|zero
13|letter_atiya
20|ba
21|ham
20|cha
22|il
20|dda
22|ha
21|hou
21|il
20|e
20|ghou
21|ok
20|huk
20|i
21|_lonsum
20|jham
21|il
20|khou
21|ok
23|_lonsum
20|lai
23|_lonsum
20|mit
23|_lonsum
20|na
22|_lonsum
21|gou
24|_lonsum
21|na
21|ya
20|o
20|pa
22|_lonsum
21|ham
20|rai
20|sam
21|ha
21|sa
20|thou
21|il
23|_lonsum
21|ta
22|ha
20|un
20|wai
20|yang
14|um_iyek
13|syllable_repetition_mark
13|virama
14|owel_sign_aai
26|u
25|nap
25|u
24|cheinap
24|ii
25|nap
24|nung
24|onap
24|sounap
24|unap
25|u
24|visarga
24|yenap
13|word_repetition_mark
2|lon
3|ting_face
2|mo
2|nde_kikakui_combining_number_hundred_thousands
38|s
31|millions
31|teens
33|n_thousands
34|s
32|housands
14|digit_eight
20|five
21|our
20|nine
20|one
20|seven
21|ix
20|three
21|wo
14|syllable_m001_ki
26|2_ka
26|3_ku
26|4_wi
26|5_wa
26|6_wu
26|7_min
26|8_man
26|9_mun
25|10_bi
26|1_ba
26|2_bu
26|3_i
26|4_a
26|5_u
26|6_di
26|7_da
26|8_du
26|9_si
25|20_sa
26|1_su
26|2_ti
26|3_ta
26|4_tu
26|5_li
26|6_la
26|7_lu
26|8_ji
26|9_ja
25|30_ju
26|1_yi
26|2_ya
26|3_yu
26|4_fi
26|5_fa
26|6_fu
26|7_nin
26|8_nan
26|9_nun
25|40_hee
26|1_ha
26|2_hoo
26|3_ngga
26|4_kpee
26|5_wo
26|6_huan
26|7_mbee
26|8_ko
26|9_wva
25|50_pu
26|1_pe
26|2_hen
26|3_hin
26|4_loo
26|5_te
26|6_gba
26|7_ngon
26|8_nyan
26|9_men
25|60_nyon
26|1_wvi
26|2_mba
26|3_jo
26|4_ndo
26|5_kee
26|6_po
26|7_ndoo
26|8_pi
26|9_to
25|70_gbo
26|1_gboo
26|2_mbe
26|3_le
26|4_kpu
26|5_fe
26|6_koo
26|7_vo
26|8_fee
26|9_so
25|80_ye
26|1_pee
26|2_nggu
26|3_heei
26|4_lee
26|5_ve
26|6_long_ngge
26|7_hun
26|8_fo
26|9_dee
25|90_nggi
26|1_tee
26|2_kpa
26|3_gbee
26|4_mon
26|5_ke
26|6_he
26|7_be
26|8_nyen
26|9_pa
24|100_e
26|1_fan
26|2_poo
26|3_boo
26|4_too
26|5_long_mboo
26|6_long_nggoo
26|7_gbe
26|8_kpe
26|9_yee
25|10_long_le
26|1_ga
26|2_kpoo
26|3_je
26|4_woo
26|5_nggee
26|6_se
26|7_nen
26|8_we
26|9_nde
25|20_nggo
26|1_yo
26|2_mbu
26|3_ndi
26|4_gbi
26|5_ndu
26|6_wee
26|7_nggua
26|8_hoou
26|9_nda
25|30_han
26|1_in
26|2_kpi
26|3_foo
26|4_njoo
26|5_in
26|6_soo
26|7_ei
26|8_bo
26|9_wve
25|40_ho
26|1_yoo
26|2_long_mbo
26|3_wei
26|4_voo
26|5_mbi
26|6_ngge
26|7_o
26|8_gbu
26|9_njee
25|50_bee
26|1_vu
26|2_nja
26|3_lo
26|4_muan
26|5_gi
26|6_nggoo
26|7_jee
26|8_kpo
26|9_nggaa
25|60_joo
26|1_long_mbe
26|2_see
26|3_ee
26|4_nyin
26|5_oo
26|6_guei
26|7_guan
26|8_gu
26|9_non
25|70_nyun
26|1_ra
26|2_mboo
26|3_vee
26|4_mbo
26|5_long_jo
26|6_hi
26|7_nguan
26|8_en
26|9_kua
25|80_doo
26|1_do
26|2_vi
26|3_long_nggo
26|4_ngen
26|5_va
26|6_hu
26|7_mbuu
26|8_mbee
26|9_muen
25|90_gee
26|1_ndee
26|2_nju
26|3_hon
26|4_wui
26|5_an
26|6_sia
26|7_fua
3|orah_with_nine_branches
3|s_symbol
2|rcury
3|oitic_cursive_fraction_eight_twelfths
27|leven_twelfths
26|five_twelfths
27|our_twelfths
26|nine_twelfths
26|one_half
30|twelfth
26|seven_twelfths
27|ix_twelfths
26|ten_twelfths
27|hree_twelfths
27|wo_twelfths
17|letter_a
25|rchaic_sa
24|ba
24|da
24|e
24|hha
24|i
24|ka
25|ha
24|la
24|ma
24|na
25|e
24|o
24|pa
24|qa
24|ra
24|sa
25|e
24|ta
25|e
25|o
24|wa
24|ya
18|ogogram_imn
26|rmt
17|number_eight
29|_hundred
37|_thousand
30|thousand
29|y_thousand
24|fifty
29|_thousand
26|ve
28|_hundred
36|_thousand
29|thousand
25|orty
29|_thousand
26|ur
28|_hundred
36|_thousand
29|thousand
24|nine
28|_hundred
36|_thousand
29|thousand
28|ty_thousand
24|one
27|_hundred
35|_thousand
28|thousand
24|seven
29|_hundred
37|_thousand
30|thousand
29|ty
31|_thousand
25|ix
27|_hundred
35|_thousand
28|thousand
27|ty
29|_thousand
24|ten
27|_thousand
25|hirty
30|_thousand
26|ree
29|_hundred
37|_thousand
30|thousand
25|wenty
30|_thousand
26|o
27|_hundred
35|_thousand
28|thousand
9|hieroglyphic_letter_a
29|ba
31|-2
29|da
29|e
29|hha
29|i
29|ka
30|ha
29|la
29|ma
29|na
31|-2
30|e
31|-2
29|o
29|pa
29|qa
29|ra
31|-2
29|sa
31|-2
30|e
29|ta
31|-2
30|e
31|-2
30|o
29|wa
29|ya
22|symbol_vidj
33|-2
3|person
2|ssage_waiting
2|trical_breve
9|long_over_short
19|two_shorts
9|pentaseme
9|short_over_long
9|tetraseme
10|riseme
10|wo_shorts_joined
20|over_long
4|o
1|iao_letter_ah
13|rchaic_ma
20|na
21|ga
20|zza
12|ba
13|ri
12|da
13|da
13|lha
15|ya
13|za
14|ha
14|yi
14|za
12|fa
12|ga
13|ha
14|ha
12|ha
13|ha
12|ka
12|la
13|ha
14|ya
13|ya
12|ma
13|ha
12|na
14|salization
13|ga
14|ha
13|ha
13|na
14|ha
13|ya
14|ha
12|pa
13|la
12|qa
13|ga
12|reformed_tone-1
26|2
26|4
26|5
26|6
26|8
22|sha
13|te
12|sa
13|ha
13|sa
13|yi
12|ta
13|e
13|lha
15|ya
13|one-2
17|3
17|4
17|5
17|6
17|7
17|8
13|sa
14|e
14|ha
14|sa
13|ta
12|va
13|fa
12|wa
12|xa
12|yi_dzha
15|ka
15|nna
15|pa
15|ta
16|sa
17|ha
16|ta
12|za
13|ha
13|sa
14|ha
13|za
14|sa
15|ya
14|ya
5|sign_aspiration
10|consonant_modifier_bar
10|reformed_aspiration
19|voicing
5|tone_above
10|below
10|right
10|top_right
5|vowel_sign_a
17|a
17|e
18|e
17|hh
17|i
17|n
18|g
17|u
16|e
17|a
17|i
17|n
18|g
17|r
18|r
16|i
17|a
18|n
19|g
17|e
17|g
17|i
17|ng
17|o
18|ng
17|u
16|n
17|g
16|o
17|er
18|y
17|g
17|o
17|u
16|rounded_er
26|r
16|u
17|a
18|n
19|g
17|ei
17|i
17|ng
17|og
17|u
16|vw
16|w
17|o
16|y
17|i
17|ui
2|cr_dash_symbol
5|on_us_symbol
4|o_sign
5|be
5|phone
5|scope
2|ddle_dot
7|third_white_right_pointing_index
3|line_horizontal_ellipsis
2|litary_helmet
9|medal
3|ky_way
3|l_sign
2|nibus
4|disc
4|mize
3|us-or-plus_sign
5|_sign
10|_in_triangle
11|with_comma_above
16|dot_below
16|falling_dots
16|rising_dots
6|tilde
3|y
2|rror
6|_ball
1|msp
1|obile_phone
12|_off
13|with_rightwards_arrow_at_left
2|dels
4|rn_pentathlon
3|i_abbreviation_sign
5|danda
6|igit_eight
11|five
12|our
11|nine
11|one
11|seven
12|ix
11|three
12|wo
11|zero
6|ouble_danda
5|letter_a
13|a
13|i
13|u
12|ba
13|ha
12|ca
13|ha
12|da
13|da
14|ha
13|ha
12|e
12|ga
13|ha
12|ha
12|i
13|i
12|ja
13|ha
12|ka
13|ha
12|la
13|la
12|ma
12|na
13|ga
13|na
13|ya
12|o
12|pa
13|ha
12|ra
12|sa
13|ha
13|sa
12|ta
13|ha
13|ta
14|ha
12|u
13|u
12|va
13|ocalic_l
21|l
20|r
21|r
12|ya
5|sign_anusvara
11|rdhacandra
10|huva
10|virama
12|sarga
5|vowel_sign_aa
17|i
17|u
16|e
16|i
17|i
16|o
16|u
17|u
16|vocalic_l
25|l
24|r
25|r
4|fier_breve_with_inverted_breve
9|letter_acute_accent
17|lveolar_click
17|postrophe
16|begin_high_tone
22|low_tone
17|ilabial_click
16|capital_a
25|e
24|b
25|arred_b
24|c
24|d
24|e
24|f
24|g
24|h
25|_with_stroke
24|i
24|j
24|k
24|l
24|m
24|n
24|o
25|u
24|p
24|q
24|r
25|eversed_e
33|n
24|t
24|u
24|v
24|w
17|entred_left_half_ring
24|right_half_ring
17|hinese_tone_yang_ping
34|qu
34|ru
34|shang
30|in_ping
33|qu
33|ru
33|shang
17|ircumflex_accent
17|olon
17|ross_accent
17|yrillic_en
25|hard_sign
25|soft_sign
16|dental_click
17|ot_horizontal_bar
20|slash
20|vertical_bar
18|uble_apostrophe
23|prime
18|wn_arrowhead
21|tack
16|end_high_tone
20|low_tone
17|xtra-high_dotted_left-stem_tone_bar
34|tone_bar
27|left-stem_tone_bar
27|tone_bar
22|low_dotted_left-stem_tone_bar
33|tone_bar
26|left-stem_tone_bar
26|tone_bar
16|georgian_nar
17|lottal_stop
28|_with_stroke
17|rave_accent
16|half_triangular_colon
17|igh_dotted_left-stem_tone_bar
28|tone_bar
21|left-stem_tone_bar
21|tone_bar
16|lateral_click
17|eft_arrowhead
21|half_ring
21|tack
17|ow_acute_accent
20|circumflex_accent
20|dotted_left-stem_tone_bar
27|tone_bar
22|wn_arrowhead
20|grave_accent
20|inverted_exclamation_mark
20|left-stem_tone_bar
24|_arrow
30|head
20|macron
20|right_arrowhead
22|ng
20|tilde
21|one_bar
20|up_arrowhead
20|vertical_line
19|er_right_corner_angle
16|macron
17|id_dotted_left-stem_tone_bar
27|tone_bar
20|left-stem_tone_bar
20|tone_bar
19|dle_double_acute_accent
30|grave_accent
23|grave_accent
18|nus_sign
16|open_shelf
16|plus_sign
17|rime
16|raised_colon
23|down_arrow
23|exclamation_mark
23|inverted_exclamation_mark
23|up_arrow
17|etroflex_click_with_retroflex_hook
18|versed_comma
25|glottal_stop
37|_with_stroke
17|hotic_hook
17|ight_arrowhead
22|half_ring
22|tack
16|shelf
18|ort_equals_sign
17|mall_a
23|e
23|in
23|lpha
22|b
23|_with_hook
23|arred_o
23|eta
23|ottom_half_o
22|c
23|_with_curl
23|apital_aa
30|b
30|g
31|_with_hook
30|h
30|i
31|_with_stroke
31|nverted_r
30|l
31|_with_belt
30|n
30|oe
30|r
30|u
30|y
23|hi
23|losed_omega
29|reversed_open_e
22|d
23|_with_hook
33|_and_tail
29|tail
23|elta
24|zh_digraph
23|otless_j_with_stroke
43|_and_hook
23|z_digraph
32|_with_curl
38|retroflex_hook
22|e
23|ng
23|sh
23|th
23|zh
22|f
23|eng_digraph
22|g
23|_with_hook
23|amma
23|reek_gamma
28|phi
22|h
23|_with_hook
29|stroke
23|eng
26|_with_hook
22|i_with_stroke
23|ota
22|j
23|_with_crossed-tail
22|k
22|l
23|_with_belt
29|inverted_lazy_s
29|middle_tilde
29|palatal_hook
29|retroflex_hook
43|_and_belt
23|ezh
26|_with_retroflex_hook
23|igature_oe
23|s_digraph
23|z_digraph
22|m
23|_with_hook
22|n_with_left_hook
29|retroflex_hook
22|o
23|_with_stroke
23|pen_e
27|o
22|p
23|hi
22|q
22|r
23|_with_fishhook
29|tail
23|ams_horn
23|eversed_e
31|glottal_stop
31|open_e
22|s
23|_with_curl
29|hook
23|chwa
24|ript_g
23|ideways_u
22|t
23|_with_palatal_hook
29|retroflex_hook
23|c_digraph_with_curl
23|esh_digraph
23|heta
23|op_half_o
23|s_digraph
32|_with_retroflex_hook
23|urned_a
30|e
30|lpha
29|h
29|i
29|m
30|_with_long_leg
29|open_e
29|r
30|_with_hook
36|long_leg
44|_and_retroflex_hook
29|v
29|w
29|y
30|_with_belt
22|u
23|_bar
24|with_left_hook
23|psilon
22|v
23|_with_hook
29|right_hook
22|w
22|x
22|y
22|z
23|_with_curl
29|retroflex_hook
17|tress_and_high_tone
27|low_tone
17|uperscript_half_triangular_colon
28|triangular_colon
16|triangular_colon
17|urned_comma
16|unaspirated
17|p_arrowhead
19|tack
17|s
16|vertical_line
17|oicing
16|yang_departing_tone_mark
17|in_departing_tone_mark
3|ulo_two_sum
2|ney-mouth_face
5|_bag
6|with_wings
3|golian_birga
15|_with_double_ornament
21|ornament
10|colon
12|mma
10|digit_eight
16|five
17|our
16|nine
16|one
16|seven
17|ix
16|three
17|wo
16|zero
11|ouble_birga_with_ornament
10|ellipsis
10|four_dots
11|ree_variation_selector_four
34|one
34|three
35|wo
11|ull_stop
10|inverted_birga
24|_with_double_ornament
10|letter_a
18|li_gali_a
27|h
27|nusvara_one
26|baluda
26|ca
26|da
28|galga
28|maru
27|da
26|half_u
31|ya
26|i
27|nverted_ubadama
26|ka
26|nga
27|na
26|pa
27|ha
26|ssa
26|ta
27|hree_baluda
27|ta
28|ha
26|ubadama
26|visarga_one
26|za
27|ha
18|ng
17|ba
17|cha
20|_with_two_dots
19|i
17|da
17|e
18|e
17|fa
17|ga
17|haa
17|i
17|ja
17|ka
18|ha
17|la
18|ha
17|ma
19|nchu_ali_gali_bha
33|ca
34|ya
33|ddha
34|ha
33|gha
33|jha
33|lha
33|nga
33|ssa
33|ta
34|ta
33|za
34|ha
24|fa
24|i
24|ka
24|ra
24|zha
17|na
17|o
18|e
17|pa
17|qa
17|ra
17|sa
18|ha
18|ibe_ang
22|cha
22|da
22|e
22|fa
22|ga
24|a
22|ha
24|a
22|i
23|y
22|ja
22|ka
22|pa
22|raa
22|sha
22|ta
23|sa
22|u
23|e
22|za
23|ha
17|ta
18|odo_ali_gali_ta
31|zha
23|ng
22|ba
22|cha
22|da
23|za
22|e
22|ga
24|a
22|haa
22|i
22|ja
23|ia
22|ka
22|long_vowel_sign
22|ma
22|nia
22|o
23|e
22|pa
22|qa
22|ta
23|sa
22|u
23|e
22|wa
22|ya
18|sa
17|u
18|e
17|wa
17|ya
17|za
18|hi
18|ra
10|manchu_comma
17|full_stop
10|nirugu
10|rotated_birga
23|_with_double_ornament
29|ornament
10|sibe_syllable_boundary_marker
11|wirl_birga
21|_with_double_ornament
27|ornament
10|todo_soft_hyphen
11|riple_birga_with_ornament
11|urned_swirl_birga_with_double_ornament
10|vowel_separator
3|key
6|_face
3|ogram_for_earth
13|yang
14|in
4|rail
4|stable_symbol
2|od_bubble
3|n_cake
5|viewing_ceremony
2|sque
5|ito
2|ther_christmas
3|or_boat
6|scooter
5|ized_wheelchair
5|way
2|unt_fuji
5|ain
8|_bicyclist
9|cableway
9|railway
3|se
5|_face
6|trap
3|th
2|vie_camera
2|yai
1|ro_danda
5|igit_eight
10|five
11|our
10|nine
10|one
10|seven
11|ix
10|three
11|wo
10|zero
5|ouble_danda
4|letter_a
11|ba
11|chu
11|da
13|i
11|e
12|a
11|hai
13|o
11|keaae
12|hai
12|o
11|la
13|n
11|maem
12|im
11|ngi
12|in
11|o
12|l
12|o
11|pa
12|hi
11|ri
12|o
11|shi
11|ta
12|ek
12|hea
11|wa
11|yo
1|uch_greater-than
5|less-than
2|ltani_letter_a
15|ba
16|ha
15|ca
16|ha
15|da
16|da
17|da
17|ha
16|ha
15|e
15|ga
16|ha
15|ha
15|i
15|ja
16|ja
15|ka
16|ha
15|la
15|ma
15|na
16|na
16|ya
15|pa
16|ha
15|ra
16|ha
16|ra
15|sa
15|ta
16|ha
16|ta
17|ha
15|u
15|va
15|ya
8|section_mark
4|imap
5|ple_musical_notes
7|ication_sign
19|_in_double_circle
23|left_half_circle
23|right_half_circle
23|triangle
20|with_dot_above
25|underbar
15|x
5|set
8|_multiplication
9|union
2|shroom
3|ic_flat_sign
6|natural_sign
6|sharp_sign
5|al_keyboard
16|_with_jacks
8|note
8|score
9|ymbol_arpeggiato_down
26|up
15|begin_beam
21|phrase
21|slur
21|tie
16|race
19|ket
17|eath_mark
18|ve
19|is
21|_rest
15|c_clef
16|aesura
16|ircle_x_notehead
16|limacus
18|vis
17|uster_notehead_black
32|white
16|oda
17|mbining_accent
31|-staccato
26|ugmentation_dot
25|bend
25|doit
27|uble_tongue
27|wn_bow
25|flag-1
30|2
30|3
30|4
30|5
27|ip
25|harmonic
25|loure
25|marcato
32|-staccato
25|rip
25|smear
26|nap_pizzicato
26|prechgesang_stem
26|taccatissimo
32|o
27|em
25|tenuto
26|remolo-1
33|2
33|3
27|iple_tongue
25|up_bow
18|mon_time
16|rescendo
17|oix
16|ut_time
15|da_capo
17|l_segno
17|mp
19|_all
17|shed_barline
16|ecrescendo
17|gree_slash
16|ouble_barline
22|flat
22|sharp
16|rum_clef-1
25|2
15|eighth_note
22|rest
16|nd_beam
19|of_stimme
19|phrase
19|slur
19|tie
15|f_clef
21|_ottava_alta
29|bassa
16|ermata
22|_below
16|inal_barline
18|gered_tremolo-1
32|2
32|3
17|ve-line_staff
16|lat_down
20|up
16|orte
17|ur-line_staff
20|string_fretboard
16|usa_black
20|white
15|g_clef
21|_ottava_alta
29|bassa
16|lissando_down
25|up
16|race_note_no_slash
26|slash
17|egorian_c_clef
25|f_clef
15|half_note
20|pedal_mark
20|rest
17|uptstimme
15|inverted_turn
15|kievan_c_clef
22|eighth_note_stem_down
39|up
23|nd_of_piece
22|final_note
23|lat_sign
22|half_note
22|quarter_note_stem_down
40|up
22|recitative_mark
22|whole_note
16|oron
15|left_repeat_sign
16|onga
20|_imperfecta_rest
21|perfecta_rest
15|maxima
16|ezzo
16|inima
21|_black
22|rest
16|oon_notehead_black
29|white
16|ulti_rest
20|ple_measure_rest
15|natural_down
23|up
16|ebenstimme
16|otehead_black
16|ull_notehead
15|one-line_staff
18|_hundred_twenty-eighth_note
41|rest
16|rnament_stroke-1
32|0
32|1
31|2
31|3
31|4
31|5
31|6
31|7
31|8
31|9
16|ttava_alta
22|bassa
15|parenthesis_notehead
16|edal_mark
21|up_mark
17|s_subpunctis
16|iano
16|lus_notehead
16|odatus
17|rrectus
24|_flexus
15|quarter_note
23|rest
23|tone_flat
28|sharp
17|indicesima_alta
28|bassa
15|repeat_dots
21|ed_figure-1
31|2
31|3
17|verse_final_barline
16|ight_repeat_sign
17|nforzando
15|scandicus
24|_flexus
16|egno
17|mibrevis_black
26|rest
26|white
19|minima_black
26|rest
26|white
16|harp_down
21|up
17|ort_barline
16|ingle_barline
17|x-line_staff
19|string_fretboard
18|teenth_note
25|rest
19|y-fourth_note
28|rest
16|ori
16|quare_b
22|notehead_black
31|white
16|ubito
15|tempus_imperfectum_cum_prolatione_imperfecta
59|_diminution-1
71|2
71|3
49|perfecta
22|perfectum_cum_prolatione_imperfecta
47|perfecta
55|_diminution-1
16|hirty-second_note
29|rest
17|ree-line_staff
16|orculus
23|_resupinus
16|r
17|iangle-round_notehead_down_black
44|white
23|_notehead_down_black
38|white
33|left_black
38|white
33|right_black
39|white
33|up_black
36|right_black
42|white
36|white
16|urn
19|_slash
20|up
16|wo-line_staff
15|virga
16|oid_notehead
15|whole_note
21|rest
16|ith_fingernails
15|x_notehead
15|z
1|vs
1|w
1|yanmar_consonant_sign_medial_ha
30|ra
30|wa
30|ya
24|on_medial_la
34|ma
34|na
23|shan_medial_wa
8|digit_eight
14|five
15|our
14|nine
14|one
14|seven
15|ix
14|three
15|wo
14|zero
8|letter_a
16|iton_ra
16|u
15|ba
16|ha
15|ca
16|ha
15|da
16|da
17|ha
16|ha
15|e
16|astern_pwo_karen_ghwa
33|nna
33|ywa
15|ga
16|ha
16|reat_sa
15|ha
15|i
16|i
15|ja
16|ha
15|ka
16|ha
18|mti_ca
23|ha
22|dda
24|ha
23|ha
22|fa
22|ga
22|ha
23|ha
22|ja
23|ha
22|lla
22|na
23|ya
22|ra
22|sa
22|tta
24|ha
22|xa
22|za
15|la
16|la
15|ma
16|on_bba
21|e
19|e
19|jha
19|nga
15|na
16|ga
16|na
17|ya
16|ya
15|o
15|pa
16|ha
15|ra
16|umai_palaung_fa
15|sa
16|gaw_karen_sha
16|ha
18|n_a
20|ba
21|ha
20|ca
21|ha
20|da
20|fa
20|ga
21|ha
20|ha
20|jha
20|ka
21|ha
20|na
21|na
21|ya
20|pha
20|tha
20|za
17|we_palaung_cha
28|sha
16|sa
15|ta
17|i_laing_ba
26|ha
25|da
26|da
27|ha
26|ha
25|fa
25|ga
26|ha
25|ja
26|ha
25|lla
25|nna
26|ya
16|ha
16|ta
17|ha
15|u
16|u
15|vocalic_l
24|l
23|r
24|r
15|wa
16|estern_pwo_karen_pwa
33|tha
15|ya
9|ogogram_khamti_hm
24|oay
24|qn
8|modifier_letter_khamti_reduplication
24|shan_reduplication
8|shan_digit_eight
19|five
20|our
19|nine
19|one
19|seven
20|ix
19|three
20|wo
19|zero
9|ign_anusvara
14|sat
13|dot_below
13|khamti_tone-1
25|3
13|little_section
13|pao_karen_tone
13|rumai_palaung_tone-5
13|section
14|han_council_emphatic_tone
26|tone-2
31|3
18|saw
18|tone-2
23|3
23|5
23|6
13|tai_laing_tone-2
28|5
13|virama
15|sarga
13|western_pwo_karen_tone-1
36|2
36|3
36|4
36|5
9|ymbol_aforementioned
16|iton_exclamation
21|one
21|two
15|completed
15|genitive
15|locative
15|shan_exclamation
20|one
8|tai_laing_digit_eight
24|five
25|our
24|nine
24|one
24|seven
25|ix
24|three
25|wo
24|zero
9|one_mark_sgaw_karen_hathi
29|ke_pho
8|vowel_sign_aa
20|i
21|ton_a
26|i
19|e
20|_above
19|geba_karen_i
19|i
20|i
19|kayah_ee
25|oe
25|u
19|mon_ii
23|o
19|sgaw_karen_eu
20|han_aa
24|e
25|_above
24|final_y
19|tall_aa
19|u
20|u
19|vocalic_l
28|l
27|r
28|r
19|western_pwo_karen_eu
37|ue
0|n-ary_circled_dot_operator
14|plus_operator
14|times_operator
7|oproduct
6|intersection
6|logical_and
14|or
6|product
6|square_intersection_operator
13|union_operator
7|ummation
6|times_operator
6|union
11|_operator_with_dot
26|plus
6|white_vertical_bar
1|abataean_cruciform_number_four
10|letter_aleph
18|yin
17|beth
17|daleth
17|final_aleph
23|beth
23|he
23|kaph
23|lamedh
23|mem
23|nun
23|shin
23|yodh
17|gimel
17|he
19|th
17|kaph
17|lamedh
17|mem
17|nun
17|pe
17|qoph
17|resh
17|sadhe
19|mekh
18|hin
17|taw
18|eth
17|waw
17|yodh
17|zayin
10|number_five
18|our
17|one
20|_hundred
17|ten
18|hree
18|wenty
19|o
3|la
2|il_polish
3|ra_sign
2|k
2|me_badge
2|nd
4|inagari_headstroke
12|letter_a
20|a
20|i
20|u
19|ba
20|ha
19|ca
20|ha
19|da
20|da
21|ha
20|ha
19|e
19|ga
20|ha
19|ha
19|i
20|i
19|ja
20|ha
19|ka
20|ha
19|la
20|la
19|ma
19|na
20|ga
20|na
20|ya
19|o
19|pa
20|ha
19|ra
20|ra
19|sa
20|ha
20|sa
19|ta
20|ha
20|ta
21|ha
19|u
20|u
19|va
20|ocalic_r
28|r
19|ya
12|sign_anusvara
18|vagraha
17|siddham
17|virama
19|sarga
12|vowel_sign_aa
24|i
24|u
23|e
23|i
24|i
23|o
23|prishthamatra_e
23|u
24|u
23|vocalic_r
32|r
2|rrow_no-break_space
2|tional_digit_shapes
9|park
2|useated_face
2|zar_amulet
1|bh
2|sp
1|ecktie
2|gated_double_vertical_bar_double_right_turnstile
5|ive_acknowledge
9|circled_digit_zero
17|latin_capital_letter_a
38|b
38|c
38|d
38|e
38|f
38|g
38|h
38|i
38|j
38|k
38|l
38|m
38|n
38|o
38|p
38|q
38|r
38|s
38|t
38|u
38|v
38|w
38|x
38|y
38|z
17|number_eighteen
25|leven
24|fifteen
25|ourteen
24|nineteen
24|seventeen
25|ixteen
24|thirteen
25|welve
27|nty
17|square
17|triangle
9|diagonal_cross
18|diamond
18|middle_right_to_lower_centre
9|squared_ab
17|cross_mark
17|ic
17|latin_capital_letter_a
38|b
38|c
38|d
38|e
38|f
38|g
38|h
38|i
38|j
38|k
38|l
38|m
38|n
38|o
38|p
38|q
38|r
38|s
38|t
38|u
38|v
38|w
38|x
38|y
38|z
17|pa
17|question_mark
17|sa
17|wc
2|ither_a_subset_of_nor_equal_to
12|perset_of_nor_equal_to
9|pproximately_nor_actually_equal_to
8|greater-than_nor_equal_to
28|ivalent_to
25|less-than
8|less-than_nor_equal_to
25|ivalent_to
22|greater-than
2|l
2|ptune
7|_form_two
2|rd_face
2|ssus
3|t_with_eggs
4|ing_dolls
2|uter
4|ral_chess_bishop
20|_rotated_ninety_degrees
29|two_hundred_seventy_degrees
14|equihopper
24|_rotated_ninety_degrees
14|king
18|_rotated_ninety_degrees
27|two_hundred_seventy_degrees
15|night
20|_rotated_forty-five_degrees
29|ninety_degrees
29|one_hundred_thirty-five_degrees
29|three_hundred_fifteen_degrees
30|wo_hundred_seventy_degrees
41|twenty-five_degrees
14|pawn
18|_rotated_ninety_degrees
27|two_hundred_seventy_degrees
14|queen
19|_rotated_ninety_degrees
28|two_hundred_seventy_degrees
14|rook
18|_rotated_ninety_degrees
27|two_hundred_seventy_degrees
14|turned_bishop
21|king
22|night
21|pawn
21|queen
21|rook
8|face
2|w_line
4|moon_symbol
9|with_face
4|sheqel_sign
4|tai_lue_digit_eight
18|five
19|our
18|nine
18|one
18|seven
19|ix
18|three
19|wo
18|zero
12|letter_final_b
25|d
25|k
25|m
25|n
26|g
25|v
19|high_ba
24|da
24|fa
24|ha
24|ka
25|va
24|la
24|ma
24|na
25|ga
24|pa
25|ha
24|qa
24|sa
25|ua
24|ta
25|ha
25|sa
24|va
24|xa
25|va
24|ya
19|low_ba
23|da
23|fa
23|ha
23|ka
24|va
23|la
23|ma
23|na
24|ga
23|pa
24|ha
23|qa
23|sa
24|ua
23|ta
24|ha
24|sa
23|va
23|xa
24|va
23|ya
12|sign_lae
20|v
12|tham_digit_one
13|one_mark-1
22|2
12|vowel_sign_aa
25|y
24|e
24|y
23|e
23|ii
24|y
23|o
24|a
25|y
24|y
23|u
24|e
25|y
24|u
24|y
23|vowel_shortener
3|a_abbreviation_sign
5|comma
5|danda
6|igit_eight
11|five
12|our
11|nine
11|one
11|seven
12|ix
11|three
12|wo
11|zero
6|ouble_comma
12|danda
5|gap_filler
5|insertion_sign
5|letter_a
13|a
13|i
13|u
12|ba
13|ha
12|ca
13|ha
12|da
13|da
14|ha
13|ha
12|e
12|ga
13|ha
12|ha
12|i
13|i
12|ja
13|ha
12|ka
13|ha
12|la
13|ha
12|ma
13|ha
12|na
13|ga
14|ha
13|ha
13|na
13|ya
14|ha
12|o
12|pa
13|ha
12|ra
13|ha
12|sa
13|ha
13|sa
12|ta
13|ha
13|ta
14|ha
12|u
13|u
12|vedic_anusvara
13|ocalic_l
21|l
20|r
21|r
12|wa
12|ya
5|om
5|placeholder_mark
5|sandhi_mark
6|iddhi
7|gn_anusvara
11|vagraha
10|candrabindu
10|final_anusvara
10|jihvamuliya
10|nukta
10|upadhmaniya
10|virama
12|sarga
5|vowel_sign_aa
17|i
17|u
16|e
16|i
17|i
16|o
16|u
17|u
16|vocalic_l
25|l
24|r
25|r
3|line_left
8|right
3|spaper
2|xt_line
5|page
1|ight_with_stars
2|nja
1|ko_combining_double_dot_above
14|long_descending_tone
19|high_tone
19|low_tone
19|rising_tone
14|nasalization_mark
14|short_high_tone
20|low_tone
20|rising_tone
7|ma
4|dantayalan
5|igit_eight
10|five
11|our
10|nine
10|one
10|seven
11|ix
10|three
11|wo
10|zero
5|orome_sign
4|exclamation_mark
4|high_tone_apostrophe
4|lajanyalan
5|etter_a
11|ba
11|cha
11|da
13|gbasinna
11|e
12|e
11|fa
11|gba
11|ha
11|i
11|ja
12|ona_cha
16|ja
16|ra
11|ka
11|la
11|ma
11|n
12|a
13|_woloso
12|ya
14|_woloso
11|o
12|o
11|pa
11|ra
12|ra
11|sa
11|ta
11|u
11|wa
11|ya
5|ow_tone_apostrophe
4|symbol_gbakurunen
11|oo_dennen
4|taman_sign
1|l
1|nbsp
1|o-break_space
2|_bicycles
4|reak_here
3|entry
8|_sign
3|mobile_phones
3|one_under_eighteen_symbol
3|pedestrians
4|iracy
3|smoking_symbol
2|minal_digit_shapes
4|sma_sign
2|n-breaking_hyphen
4|potable_water_symbol
3|forking
2|r
3|dic_mark_sign
3|mal_subgroup_of
18|_or_equal_to
3|th_east_and_south_west_arrow
12|rrow
16|_and_south_east_arrow
17|crossing_north_west_arrow
26|south_east_arrow
17|with_hook
11|black_arrow
11|double_arrow
11|pointing_bud
20|leaf
20|vine_leaf
11|sans-serif_arrow
11|triangle-headed_arrow
32|_to_bar
11|white_arrow
6|indic_fraction_one_eighth
25|half
25|quarter
25|sixteenth
21|three_quarters
27|sixteenths
12|placeholder_mark
12|quantity_mark
15|rter_mark
12|rupee_mark
6|west_and_south_east_arrow
12|rrow
16|_and_north_east_arrow
17|crossing_north_east_arrow
17|to_corner
20|long_bar
17|with_hook
11|black_arrow
11|double_arrow
11|pointing_bud
20|leaf
20|vine_leaf
11|sans-serif_arrow
11|triangle-headed_arrow
32|_to_bar
11|white_arrow
5|east-pointing_airplane
2|se
2|t_a_subset_of
8|perset_of
5|lmost_equal_to
5|n_element_of
5|symptotically_equal_to
4|check_mark
4|equal_to
7|ivalent_to
4|greater-than
4|identical_to
4|less-than
4|normal_subgroup_of
22|_or_equal_to
4|parallel_to
4|sign
5|quare_image_of_or_equal_to
11|original_of_or_equal_to
4|tilde
5|rue
3|ched_left_semicircle_with_three_dots
9|ower_right-shadowed_white_rightwards_arrow
8|right_semicircle_with_three_dots
8|upper_right-shadowed_white_rightwards_arrow
3|e
4|_pad
7|ge
4|book
8|_with_decorative_cover
1|ul
3|l
2|mber_eighteen_full_stop
8|leven_full_stop
7|fifteen_full_stop
8|ourteen_full_stop
7|nineteen_full_stop
7|seventeen_full_stop
8|ign
9|xteen_full_stop
7|ten_full_stop
8|hirteen_full_stop
8|welve_full_stop
10|nty_full_stop
3|ero_sign
2|shu_character-1b170
20|1
20|2
20|3
20|4
20|5
20|6
20|7
20|8
20|9
20|a
20|b
20|c
20|d
20|e
20|f
19|80
20|1
20|2
20|3
20|4
20|5
20|6
20|7
20|8
20|9
20|a
20|b
20|c
20|d
20|e
20|f
19|90
20|1
20|2
20|3
20|4
20|5
20|6
20|7
20|8
20|9
20|a
20|b
20|c
20|d
20|e
20|f
19|a0
20|1
20|2
20|3
20|4
20|5
20|6
20|7
20|8
20|9
20|a
20|b
20|c
20|d
20|e
20|f
19|b0
20|1
20|2
20|3
20|4
20|5
20|6
20|7
20|8
20|9
20|a
20|b
20|c
20|d
20|e
20|f
19|c0
20|1
20|2
20|3
20|4
20|5
20|6
20|7
20|8
20|9
20|a
20|b
20|c
20|d
20|e
20|f
19|d0
20|1
20|2
20|3
20|4
20|5
20|6
20|7
20|8
20|9
20|a
20|b
20|c
20|d
20|e
20|f
19|e0
20|1
20|2
20|3
20|4
20|5
20|6
20|7
20|8
20|9
20|a
20|b
20|c
20|d
20|e
20|f
19|f0
20|1
20|2
20|3
20|4
20|5
20|6
20|7
20|8
20|9
20|a
20|b
20|c
20|d
20|e
20|f
18|200
20|1
20|2
20|3
20|4
20|5
20|6
20|7
20|8
20|9
20|a
20|b
20|c
20|d
20|e
20|f
19|10
20|1
20|2
20|3
20|4
20|5
20|6
20|7
20|8
20|9
20|a
20|b
20|c
20|d
20|e
20|f
19|20
20|1
20|2
20|3
20|4
20|5
20|6
20|7
20|8
20|9
20|a
20|b
20|c
20|d
20|e
20|f
19|30
20|1
20|2
20|3
20|4
20|5
20|6
20|7
20|8
20|9
20|a
20|b
20|c
20|d
20|e
20|f
19|40
20|1
20|2
20|3
20|4
20|5
20|6
20|7
20|8
20|9
20|a
20|b
20|c
20|d
20|e
20|f
19|50
20|1
20|2
20|3
20|4
20|5
20|6
20|7
20|8
20|9
20|a
20|b
20|c
20|d
20|e
20|f
19|60
20|1
20|2
20|3
20|4
20|5
20|6
20|7
20|8
20|9
20|a
20|b
20|c
20|d
20|e
20|f
19|70
20|1
20|2
20|3
20|4
20|5
20|6
20|7
20|8
20|9
20|a
20|b
20|c
20|d
20|e
20|f
19|80
20|1
20|2
20|3
20|4
20|5
20|6
20|7
20|8
20|9
20|a
20|b
20|c
20|d
20|e
20|f
19|90
20|1
20|2
20|3
20|4
20|5
20|6
20|7
20|8
20|9
20|a
20|b
20|c
20|d
20|e
20|f
19|a0
20|1
20|2
20|3
20|4
20|5
20|6
20|7
20|8
20|9
20|a
20|b
20|c
20|d
20|e
20|f
19|b0
20|1
20|2
20|3
20|4
20|5
20|6
20|7
20|8
20|9
20|a
20|b
20|c
20|d
20|e
20|f
19|c0
20|1
20|2
20|3
20|4
20|5
20|6
20|7
20|8
20|9
20|a
20|b
20|c
20|d
20|e
20|f
19|d0
20|1
20|2
20|3
20|4
20|5
20|6
20|7
20|8
20|9
20|a
20|b
20|c
20|d
20|e
20|f
19|e0
20|1
20|2
20|3
20|4
20|5
20|6
20|7
20|8
20|9
20|a
20|b
20|c
20|d
20|e
20|f
19|f0
20|1
20|2
20|3
20|4
20|5
20|6
20|7
20|8
20|9
20|a
20|b
6|iteration_mark
2|t_and_bolt
1|yiakeng_puachue_hmong_circled_ca
23|digit_eight
29|five
30|our
29|nine
29|one
29|seven
30|ix
29|three
30|wo
29|zero
23|letter_a
31|a
30|ca
30|da
31|la
30|e
31|e
30|fa
30|ga
30|ha
32|h
30|i
30|ka
30|la
30|ma
31|la
30|na
31|ca
31|ka
31|pa
32|la
31|qa
31|ra
31|ta
32|sa
32|xa
31|ya
30|o
31|o
30|pa
31|la
30|qa
30|ra
31|ra
30|sa
30|ta
31|sa
31|xa
30|u
30|va
30|w
30|xa
31|ya
30|ya
30|za
24|ogogram_nyaj
23|sign_for_animal
32|invertebrate
32|location
32|person
32|thing
28|xw_xw
24|yllable_lengthener
23|tone-b
28|d
28|g
28|j
28|m
28|s
28|v
0|object_replacement_character
2|lique_angle_opening_down
22|up
8|hyphen
2|server_eye_symbol
1|cr_amount_of_check
4|belt_buckle
5|ow_tie
5|ranch_bank_identification
4|chair
5|ustomer_account_number
4|dash
5|ouble_backslash
4|fork
4|hook
4|inverted_fork
2|tagonal_sign
3|opus
1|den
1|ffice_building
1|gham_feather_mark
6|letter_ailm
13|beith
13|ceirt
14|oll
13|dair
13|eabhadh
15|dhadh
15|mhancholl
13|fearn
13|gort
13|ifin
14|odhadh
13|luis
13|muin
13|ngeadal
14|ion
13|onn
14|r
13|peith
13|ruis
13|sail
14|traif
13|tinne
13|uath
14|illeann
14|r
6|reversed_feather_mark
6|space_mark
2|onek
1|hm_sign
1|il_drum
1|k_hand_sign
1|l_chiki_ahad
9|digit_eight
15|five
16|our
15|nine
15|one
15|seven
16|ix
15|three
16|wo
15|zero
9|gaahlaa_ttuddaag
9|letter_aaj
18|k
18|m
18|w
17|g
17|l
17|ng
17|t
16|edd
17|n
17|p
17|rr
16|ih
17|ny
17|r
17|s
16|la
18|a
17|e
17|i
17|o
17|u
16|ob
17|h
17|tt
17|v
16|uc
17|d
17|nn
17|y
9|mu-gaahlaa_ttuddaag
11|_ttuddag
9|phaarkaa
10|unctuation_double_mucaad
21|mucaad
9|relaa
2|d_chinese_hook_mark
12|iteration_mark
4|hungarian_capital_letter_a
30|a
30|k
30|mb
30|nd
29|close_e
29|e
30|b
30|c
31|h
31|s
30|d
30|e
30|f
30|g
31|y
30|h
30|j
30|k
30|l
31|y
30|m
31|p
30|n
31|c
31|t
32|-shaped_sign
31|y
30|p
30|r
30|s
31|z
30|t
31|y
30|v
30|z
31|s
29|i
30|i
29|nikolsburg_oe
40|ue
29|o
30|ee
30|o
29|rudimenta_oe
39|ue
29|short_er
29|u
30|nk
30|s
30|u
14|number_fifty
23|ve
21|one
24|_hundred
25|thousand
21|ten
14|small_letter_a
28|a
28|k
28|mb
28|nd
27|close_e
27|e
28|b
28|c
29|h
29|s
28|d
28|e
28|f
28|g
29|y
28|h
28|j
28|k
28|l
29|y
28|m
29|p
28|n
29|c
29|t
30|-shaped_sign
29|y
28|p
28|r
28|s
29|z
28|t
29|y
28|v
28|z
29|s
27|i
28|i
27|nikolsburg_oe
38|ue
27|o
28|ee
28|o
27|rudimenta_oe
37|ue
27|short_er
27|u
28|nk
28|s
28|u
4|italic_letter_a
18|be
18|che
18|de
18|e
19|f
19|ks
19|l
19|m
19|n
19|r
20|s
19|s
20|h
20|s
18|he
18|i
19|i
18|ka
19|e
19|he
19|u
18|northern_tse
18|o
18|pe
19|he
18|she
19|outhern_tse
18|te
19|he
18|u
19|u
18|ve
18|ye
18|ze
11|numeral_fifty
21|ve
19|one
19|ten
4|key
4|north_arabian_letter_ain
26|lef
25|beh
25|dad
27|l
25|es-1
28|2
28|3
25|feh
25|geem
26|hain
25|hah
26|eh
25|kaf
26|hah
25|lam
25|meem
25|noon
25|qaf
25|reh
25|sad
25|tah
26|eh
26|hal
27|eh
25|waw
25|yeh
25|zah
27|in
18|number_one
25|ten
26|wenty
4|permic_letter_an
18|bur
18|chery
18|doi
19|zhoi
20|ita
18|e
19|f
18|gai
18|ha
18|i
19|a
19|e
18|koke
18|lei
18|menoe
18|nenoe
18|o
19|o
18|peei
18|rei
18|shchooi
20|ooi
19|ii
18|tai
19|siu
18|u
18|ver
19|ooi
18|ya
20|t
19|er
21|i
21|u
19|ry
19|u
18|zata
19|hoi
7|sian_number_hundred
19|one
19|ten
20|wenty
21|o
12|sign_a
18|uramazdaa
27|-2
27|ha
17|ba
19|ga
18|uumish
17|ca
17|da
19|hyaaush
26|-2
18|i
18|u
17|fa
17|ga
18|u
17|ha
17|i
17|ja
18|i
17|ka
18|u
17|la
17|ma
18|i
18|u
17|na
18|u
17|pa
17|ra
18|u
17|sa
18|ha
18|sa
17|ta
18|ha
18|u
17|u
17|va
18|i
17|xa
18|shaayathiya
17|ya
17|za
12|word_divider
8|onal_computer
4|sogdian_fraction_one_half
12|letter_aleph
21|ternate_ayin
20|yin
19|beth
19|final_aleph
25|beth
25|he
25|nun
28|_with_vertical_tail
25|sadhe
30|_with_vertical_tail
25|taw
28|_with_vertical_tail
19|gimel
19|he
21|th
19|kaph
19|lamedh
19|mem
19|nun
19|pe
19|resh-ayin-daleth
19|sadhe
21|mekh
20|hin
19|taw
19|waw
19|yodh
19|zayin
13|igature_ayin-daleth
12|number_five
20|our
19|one
22|_hundred
19|ten
20|hirty
21|ree
20|wenty
21|o
6|uth_arabian_letter_alef
26|yn
25|beth
25|daleth
26|hadhe
28|leth
25|fe
25|ghayn
26|imel
25|he
27|th
25|kaph
26|heth
25|lamedh
25|mem
25|nun
25|qoph
25|resh
25|sadhe
27|mekh
27|t
26|hin
25|taw
26|eth
26|haw
27|eth
25|waw
25|yodh
25|zayn
18|number_fifty
25|one
21|eric_indicator
4|turkic_letter_orkhon_a
26|b
26|d
26|eb
27|d
27|g
27|k
27|l
27|n
27|r
27|s
27|t
27|y
26|g
26|l
26|n
26|q
26|r
26|s
27|h
26|t
26|y
25|bash
25|ec
26|lt
26|m
26|nc
27|g
27|t
27|y
26|p
26|sh
26|z
25|i
26|c
26|q
25|o
26|e
27|k
26|p
26|q
26|t
18|yenisei_a
27|b
27|d
27|e
28|b
28|g
28|k
28|n
29|g
28|t
28|y
27|g
27|l
27|ng
27|q
27|r
27|sh
27|t
27|y
26|e
27|c
27|nc
28|t
28|y
27|sh
27|z
26|i
27|q
26|oe
28|k
27|q
4|uyghur_combining_dot_above
25|below
21|two_dots_above
30|below
11|letter_aleph
18|beth
18|final_heth
18|gimel-heth
18|kaph
18|lamedh
19|esh
18|mem
18|nun
18|pe
18|resh
18|sadhe
20|mekh
19|hin
18|taw
18|waw
18|yodh
18|zayin
11|punctuation_bar
23|four_dots
23|two_bars
27|dots
3|er_adult
6|man
6|woman
2|ive
1|m_symbol
1|n_with_exclamation_mark_with_left_right_arrow_above
2|coming_automobile
9|bus
9|fire_engine
9|police_car
9|taxi
2|e-piece_swimsuit
3|_button_mouse
4|dot_leader
8|over_two_dots_punctuation
2|ion
1|pen-circuit-output_h-type_symbol
20|l-type_symbol
5|outlined_rightwards_arrow
4|_book
7|x
5|centre_asterisk
12|black_star
12|cross
12|teardrop-spoked_asterisk
5|file_folder
6|older
5|hands_sign
5|lock
5|mailbox_with_lowered_flag
18|raised_flag
5|subset
7|perset
3|rating_system_command
2|hiuchus
2|position
2|tical_disc
12|_icon
4|on_key
1|r_with_dot_inside
2|ange_book
7|heart
5|utan
2|iginal_of
3|ya_ai_length_mark
7|u_length_mark
6|digit_eight
12|five
13|our
12|nine
12|one
12|seven
13|ix
12|three
13|wo
12|zero
6|fraction_one_eighth
19|half
19|quarter
19|sixteenth
15|three_quarters
21|sixteenths
6|isshar
6|letter_a
14|a
14|i
14|u
13|ba
14|ha
13|ca
14|ha
13|da
14|da
15|ha
14|ha
13|e
13|ga
14|ha
13|ha
13|i
14|i
13|ja
14|ha
13|ka
14|ha
13|la
14|la
13|ma
13|na
14|ga
14|na
14|ya
13|o
13|pa
14|ha
13|ra
14|ha
14|ra
13|sa
14|ha
14|sa
13|ta
14|ha
14|ta
15|ha
13|u
14|u
13|va
14|ocalic_l
22|l
21|r
22|r
13|wa
13|ya
14|ya
6|sign_anusvara
12|vagraha
11|candrabindu
11|nukta
11|overline
11|virama
13|sarga
6|vowel_sign_aa
18|i
18|u
17|e
17|i
18|i
17|o
17|u
18|u
17|vocalic_l
26|l
25|r
26|r
2|nate_left_parenthesis
7|right_parenthesis
2|thodox_cross
1|sage_capital_letter_a
22|h
22|i
23|n
21|bra
21|cha
21|dha
21|e
22|hcha
23|ka
23|pa
23|ta
24|sa
22|in
21|gha
21|ha
22|ya
21|i
21|ka
22|ha
22|ya
21|la
21|ma
21|na
21|o
22|in
21|pa
21|sa
22|ha
21|ta
22|sa
23|ha
21|u
21|wa
21|za
22|ha
6|small_letter_a
20|h
20|i
21|n
19|bra
19|cha
19|dha
19|e
20|hcha
21|ka
21|pa
21|ta
22|sa
20|in
19|gha
19|ha
20|ya
19|i
19|ka
20|ha
20|ya
19|la
19|ma
19|na
19|o
20|in
19|pa
19|sa
20|ha
19|ta
20|sa
21|ha
19|u
19|wa
19|za
20|ha
2|c
2|manya_digit_eight
14|five
15|our
14|nine
14|one
14|seven
15|ix
14|three
15|wo
14|zero
8|letter_a
16|a
16|lef
15|ba
15|cayn
15|deel
16|ha
15|e
16|e
15|fa
15|ga
15|ha
15|i
15|ja
15|kaaf
16|ha
15|laan
15|miin
15|nuun
15|o
16|o
15|qaaf
15|ra
15|sa
16|hiin
15|ta
15|u
15|waw
15|xa
15|ya
1|tter
3|oman_siyaq_alternate_number_eight
31|five
32|our
35|_hundred
31|nine
31|seven
32|ix
34|_hundred
31|ten
34|_thousand
32|hree
32|wo
34|_thousand
14|fraction_one_half
27|sixth
14|marratan
14|number_eight
26|_hundred
27|thousand
26|y
27|_thousand
21|fifty
26|_thousand
23|ve
25|_hundred
26|thousand
22|orty
26|_thousand
23|ur
25|_hundred
26|thousand
21|nine
25|_hundred
26|thousand
25|ty
27|_thousand
21|one
24|_hundred
25|thousand
21|seven
26|_hundred
27|thousand
26|ty
28|_thousand
22|ix
24|_hundred
25|thousand
24|ty
26|_thousand
21|ten
24|_thousand
22|hirty
27|_thousand
23|ree
26|_hundred
27|thousand
22|wenty
27|_thousand
23|o
24|_hundred
25|thousand
1|unce_sign
2|tbox_tray
3|lined_black_star
9|greek_cross
9|latin_cross
9|white_star
1|verheated_face
4|lap
7|ping_black_squares
12|white_and_black_squares
18|squares
5|ine
1|wl
1|x
1|yster
0|package
2|d
3|ding_character
2|ge
4|_facing_up
5|with_circled_text
11|url
4|r
4|s
3|oda
2|hawh_hmong_clan_sign_faj
23|ham
25|wj
23|khab
24|oo
24|wm
23|lauj
24|is
23|muas
23|phab
23|thoj
24|sab
25|heej
25|wb
23|vaj
24|wj
23|xyooj
23|yaj
24|eeg
14|onsonant_au
23|cau
24|hau
23|hau
24|lau
24|nau
23|lau
23|mau
23|nau
24|chau
24|kau
24|lau
24|thau
25|sau
23|plhau
23|qhau
23|rau
23|vau
23|xau
23|yau
13|digit_eight
19|five
20|our
19|nine
19|one
19|seven
20|ix
19|three
20|wo
19|zero
13|mark_cim_hom
22|kes
23|hav
22|so
23|uam
22|taum
23|ub
13|number_hundred_millions
27|s
20|millions
20|ten_billions
24|thousands
23|s
21|rillions
13|sign_av
18|cim_cheem
23|uam_tshooj
22|hais_lus_ntog_ntog
22|nres_tos
22|pub_dawb
22|tsov_rog
23|xwv
26|_chwv
18|hli
19|nub
18|ib_yam
18|los
18|meej_suab
23|tseeb
19|us
18|nqig
19|tuj
18|tau
19|hird-stage_hli
19|xheej_ceev
18|vos_feem
22|lub
22|nrua
22|seev
22|thiab
24|om
23|shab_ceeb
18|xaus
19|iab
19|yeem_faib
24|ntxiv
24|rho
24|tov
20|oo
18|zwj_thaj
13|vowel_kaab
22|v
21|b
21|ib
22|v
21|ub
22|v
21|v
21|wb
22|v
20|eb
21|eb
22|v
21|v
20|iab
22|v
21|b
21|v
20|ob
21|ob
22|v
21|v
20|uab
22|v
21|b
21|v
20|wb
21|v
2|llas
3|m_branch
5|down_hand
5|tree
5|up_hand
4|s_up_together
4|yrene_left-pointing_fleuron
12|tter_aleph
18|yin
17|beth
17|daleth
17|final_nun
17|gimel
17|he
19|th
17|kaph
17|lamedh
17|mem
17|nun
17|pe
17|qoph
17|resh
17|sadhe
19|mekh
18|hin
17|taw
18|eth
17|waw
17|yodh
17|zayin
10|number_five
18|our
17|one
17|ten
18|hree
18|wenty
19|o
10|right-pointing_fleuron
2|ncakes
3|da_face
2|perclip
2|rachute
4|graph_separator
9|os
9|us_mark
4|llel_to
9|with_horizontal_stroke
14|tilde_operator
3|enthesized_digit_eight
20|five
21|our
20|nine
20|one
20|seven
21|ix
20|three
21|wo
14|hangul_chieuch
28|_a
22|ieuc
26|_a
27|u
21|hieuh
26|_a
21|ieung
26|_a
21|khieukh
28|_a
22|iyeok
27|_a
21|mieum
26|_a
21|nieun
26|_a
21|phieuph
28|_a
22|ieup
26|_a
21|rieul
26|_a
21|sios
25|_a
21|thieuth
28|_a
22|ikeut
27|_a
14|ideograph_alliance
24|call
25|ongratulation
24|earth
25|ight
25|nterprise
24|festival
25|inancial
26|re
26|ve
25|our
24|have
24|labor
24|metal
25|oon
24|name
25|ine
24|one
24|reach
26|present
26|source
27|t
24|self
26|ven
25|ix
25|ociety
25|pecial
25|tock
26|udy
25|un
26|pervise
24|ten
25|hree
25|wo
24|water
25|ood
14|korean_character_o_hu
32|jeon
14|latin_capital_letter_a
35|b
35|c
35|d
35|e
35|f
35|g
35|h
35|i
35|j
35|k
35|l
35|m
35|n
35|o
35|p
35|q
35|r
35|s
35|t
35|u
35|v
35|w
35|x
35|y
35|z
20|small_letter_a
33|b
33|c
33|d
33|e
33|f
33|g
33|h
33|i
33|j
33|k
33|l
33|m
33|n
33|o
33|p
33|q
33|r
33|s
33|t
33|u
33|v
33|w
33|x
33|y
33|z
14|number_eighteen
22|leven
21|fifteen
22|ourteen
21|nineteen
21|seventeen
22|ixteen
21|ten
22|hirteen
22|welve
24|nty
3|rot
3|t_alternation_mark
4|ial_differential
8|line_backward
13|down
13|forward
13|up
7|ly-recycled_paper_symbol
4|nership_sign
4|y_popper
2|ssed_symbol
5|nger_ship
4|ive-pull-down-output_symbol
13|up-output_symbol
4|port_control
2|u_cin_hau_glottal_stop
24|_final
25|variant
12|letter_a
19|ba
19|ca
20|ha
19|da
19|e
19|fa
20|inal_k
25|l
25|m
25|n
26|g
25|p
25|t
25|w
25|y
19|ga
19|ha
19|i
20|a
19|ka
20|ha
19|la
19|ma
19|na
20|ga
19|o
19|pa
20|ha
19|ra
19|sa
19|ta
20|ha
19|u
20|a
19|va
19|za
13|ow-falling_tone
28|_final
29|long
33|_final
12|mid-level_tone
26|_final
27|long_final
12|rising_tone
23|_final
24|long
28|_final
12|sandhi_glottal_stop
31|_final
19|tone
23|_final
24|long
28|_final
2|w_prints
1|df
2|i
1|eace_symbol
4|h
4|ock
3|nuts
3|r
2|destrian
2|n_over_stamped_envelope
3|cil
3|guin
3|sive_face
3|tagram
2|ople_hugging
2|r_mille_sign
4|sign
4|ten_thousand_sign
3|cent_sign
3|forming_arts
3|manent_paper_sign
3|pendicular
13|_with_s
3|severing_face
4|on_bowing_deeply
7|climbing
7|doing_cartwheel
7|frowning
7|in_lotus_position
10|steamy_room
7|raising_both_hands_in_celebration
7|with_ball
13|lond_hair
12|crown
12|folded_hands
12|headscarf
12|pouting_face
6|al_computer
4|pective
2|seta_sign
3|o_sign
2|tri_dish
1|hags-pa_double_head_mark
9|letter_a
17|lternate_ya
17|spirated_fa
16|ba
16|ca
18|ndrabindu
17|ha
16|da
17|da
17|za
16|e
17|e
16|fa
16|ga
17|ga
16|ha
16|i
16|ja
16|ka
17|ha
16|la
16|ma
16|na
17|ga
17|na
17|ya
16|o
16|pa
17|ha
16|qa
16|ra
16|sa
17|ha
17|mall_a
16|ta
17|ha
17|sa
18|ha
17|ta
18|ha
16|u
16|voiced_ha
21|less_sha
16|wa
16|xa
16|ya
16|za
17|ha
9|mark_double_shad
14|shad
9|single_head_mark
10|ubjoined_letter_ra
26|wa
26|ya
11|perfixed_letter_ra
3|istos_disc_sign_arrow
19|bee
22|hive
20|oomerang
21|w
20|ulls_leg
19|captive
21|rpentry_plane
21|t
20|hild
20|lub
20|olumn
21|mb
23|ining_oblique_stroke
19|dolium
21|ve
19|eagle
19|flute
19|gauntlet
20|rater
19|helmet
20|ide
20|orn
19|lid
21|ly
19|manacles
21|ttock
19|ox_back
19|papyrus
20|edestrian
20|lane_tree
21|umed_head
19|ram
20|osette
19|saw
20|hield
22|p
20|ling
20|mall_axe
20|trainer
19|tattooed_head
20|iara
20|unny
19|vine
19|wavy_band
20|oman
2|ilippine_double_punctuation
11|single_punctuation
2|oenician_letter_ain
19|lf
18|bet
18|delt
18|gaml
18|he
20|t
18|kaf
18|lamd
18|mem
18|nun
18|pe
18|qof
18|rosh
18|sade
19|emk
19|hin
18|tau
19|et
18|wau
18|yod
18|zai
11|number_one
21|_hundred
18|ten
19|hree
19|wenty
20|o
11|word_separator
3|lus
1|ick
4|up_truck
2|e
2|g
3|_face
4|nose
2|lcrow_sign
3|e_of_poo
3|l
2|nata
3|ched_fingers
5|ing_hand
3|e_decoration
4|apple
3|wheel_star
2|sces
3|tol
2|tchfork
9|_with_tee_top
1|lacard
4|e_of_interest_sign
9|worship
3|nck_constant
15|_over_two_pi
3|yground_slide
4|ing_card_ace_of_clubs
20|diamonds
20|hearts
20|spades
13|back
14|lack_joker
13|eight_of_clubs
22|diamonds
22|hearts
22|spades
13|five_of_clubs
21|diamonds
21|hearts
21|spades
14|ool
15|ur_of_clubs
21|diamonds
21|hearts
21|spades
13|jack_of_clubs
21|diamonds
21|hearts
21|spades
13|king_of_clubs
21|diamonds
21|hearts
21|spades
14|night_of_clubs
23|diamonds
23|hearts
23|spades
13|nine_of_clubs
21|diamonds
21|hearts
21|spades
13|queen_of_clubs
22|diamonds
22|hearts
22|spades
13|red_joker
13|seven_of_clubs
22|diamonds
22|hearts
22|spades
14|ix_of_clubs
20|diamonds
20|hearts
20|spades
13|ten_of_clubs
20|diamonds
20|hearts
20|spades
14|hree_of_clubs
22|diamonds
22|hearts
22|spades
14|rump-1
20|0
20|1
20|2
20|3
20|4
20|5
20|6
20|7
20|8
20|9
19|2
20|0
20|1
19|3
19|4
19|5
19|6
19|7
19|8
19|9
14|wo_of_clubs
20|diamonds
20|hearts
20|spades
13|white_joker
2|d
2|u
3|nger
3|s-minus_sign
4|_sign
9|_above_equals_sign
10|in_left_half_circle
13|right_half_circle
13|triangle
10|with_black_triangle
15|circumflex_accent_above
15|dot_below
15|small_circle_above
16|ubscript_two
15|tilde_above
21|below
3|to
5|_form_five
12|our
11|three
12|wo
1|m
1|ocket_calculator
2|lice_car
10|s_revolving_light
7|officer
2|odle
2|p_directional_formatting
16|isolate
3|corn
2|rtable_stereo
2|seidon
3|ition_indicator
3|tal_horn
7|mark
11|_face
4|box
2|t_of_food
3|able_water_symbol
4|to
3|ted_plant
2|uch
3|ltry_leg
3|nd_sign
3|ring_liquid
3|ting_cat_face
8|face
2|wer_on-off_symbol
8|_symbol
6|sleep_symbol
7|ymbol
1|rayer_beads
2|ecedes
8|_above_almost_equal_to
15|equals_sign
15|not_almost_equal_to
19|equal_to
15|single-line_equals_sign
27|not_equal_to
9|but_not_equivalent_to
9|or_equal_to
15|ivalent_to
9|under_relation
3|gnant_man
9|person
9|woman
3|scription_take
4|entation_form_for_vertical_colon
33|mma
31|em_dash
32|n_dash
32|xclamation_mark
31|horizontal_ellipsis
31|ideographic_comma
43|full_stop
31|left_angle_bracket
36|black_lenticular_bracket
36|corner_bracket
37|urly_bracket
36|double_angle_bracket
36|parenthesis
36|square_bracket
36|tortoise_shell_bracket
36|white_corner_bracket
42|lenticular_bracket
32|ow_line
31|question_mark
31|right_angle_bracket
37|black_lenticular_bracket
37|corner_bracket
38|urly_bracket
37|double_angle_bracket
37|parenthesis
37|square_bracket
37|tortoise_shell_bracket
37|white_corner_bracket
43|lenticular_bracket
57|kcet
31|semicolon
31|two_dot_leader
31|wavy_low_line
3|tzel
3|vious_page
2|ime
3|nce
6|ss
4|t_screen_symbol
5|er
7|_icon
3|vacy_message
5|te_use-1
12|2
11|_one
12|two
2|obing_cane
3|hibited_sign
3|jective
3|perty_line
4|ortion
10|al_to
3|serpina
1|salter_pahlavi_four_dots_with_cross
31|dot
16|letter_aleph
23|beth
23|daleth
23|gimel
23|he
25|th
23|kaph
23|lamedh
23|mem-qoph
23|nun
23|pe
23|sadhe
25|mekh
24|hin
23|taw
23|waw-ayin-resh
23|yodh
23|zayin
16|number_four
23|one
26|_hundred
23|ten
24|hree
24|wenty
25|o
16|section_mark
16|turned_section_mark
1|u1
2|2
2|blic_address_loudspeaker
2|nctuation_space
6|s_elevatus_mark
2|rple_heart
3|se
2|shpin
2|t_litter_in_its_place_symbol
0|quadrant_lower_left
15|right
9|upper_left
19|_and_lower_left_and_lower_right
30|right
24|upper_right_and_lower_left
46|right
15|right
20|_and_lower_left
35|_and_lower_right
5|uple_integral_operator
10|prime
3|rter_note
3|ternion_integral_operator
2|estion_exclamation_mark
9|mark
8|ed_equal_to
2|incunx
2|otation_mark
0|rabbit
6|_face
2|ccoon
3|ing_car
7|motorcycle
2|dical_symbol_bottom
4|o
5|_button
5|active_sign
2|ilway_car
8|track
3|n
4|bow
3|sed_back_of_hand
7|comma
7|dot
10|ted_interpolation_marker
7|fist
7|hand
11|_with_fingers_splayed
17|part_between_middle_and_ring_fingers
7|interpolation_marker
7|mc_sign
8|d_sign
8|r_sign
7|square
2|m
2|t
3|io
2|zor
1|eceipt
3|ord_separator
3|reational_vehicle
3|ycled_paper_symbol
6|ing_symbol_for_generic_materials
21|type-1_plastics
26|2_plastics
26|3_plastics
26|4_plastics
26|5_plastics
26|6_plastics
26|7_plastics
2|d_apple
4|gift_envelope
2|ference_mark
2|gional_indicator_symbol_letter_a
33|b
33|c
33|d
33|e
33|f
33|g
33|h
33|i
33|j
33|k
33|l
33|m
33|n
33|o
33|p
33|q
33|r
33|s
33|t
33|u
33|v
33|w
33|x
33|y
33|z
4|stered_sign
2|jang_consonant_sign_h
22|n
23|g
22|r
7|letter_a
14|ba
14|ca
14|da
14|ga
14|ha
14|ja
14|ka
14|la
14|ma
15|ba
14|na
15|da
15|ga
16|ga
15|ya
16|ja
14|pa
14|ra
14|sa
14|ta
14|wa
14|ya
7|section_mark
7|virama
8|owel_sign_ai
19|u
18|e
19|a
19|u
18|i
18|o
18|u
2|lieved_face
2|minder_ribbon
2|placement_character
2|sponse
3|tricted_left_entry-1
22|2
5|oom
2|turn_left
7|right
7|symbol
2|verse_checker_board
8|index
8|light_four_pointed_pinwheel_star
10|ne_feed
8|solidus
15|_operator
16|preceding_subset
16|with_horizontal_stroke
8|tilde_operator_above_leftwards_arrow
29|rightwards_arrow
7|d_angle
14|_with_underbar
9|comma
9|double_prime
21|_quotation_mark
16|stroke_not_sign
9|empty_set
9|forked_paragraphos
9|hand_with_middle_finger_extended
9|not_sign
9|pilcrow_sign
10|rime
9|question_mark
9|raised_hand_with_fingers_splayed
10|ight_angle
10|otated_floral_heart_bullet
9|sans-serif_capital_l
10|emicolon
9|thumbs_down_sign
16|up_sign
10|ilde
14|_equals
10|riple_prime
9|victory_hand
3|olving_hearts
1|hinoceros
1|i
2|al_sign
2|bbon
6|_arrow_down_left
18|right
13|left_down
18|up
13|right_down
19|up
13|up_left
16|right
2|ce_ball
5|cracker
2|fle
2|ght-facing_armenian_eternity_sign
13|fist
13|svasti_sign
24|_with_dots
6|handed_interlaced_pentagram
6|pointing_angle_bracket
15|curved_angle_bracket
15|double_angle_quotation_mark
15|magnifying_glass
6|shaded_white_rightwards_arrow
7|ide_arc_clockwise_arrow
6|to-left_embedding
14|isolate
14|mark
14|override
5|_and_lower_one_eighth_block
10|upper_one_eighth_block
8|ger_bubble
9|le
11|_bracket
19|_with_dot
12|dotted_substitution_marker
12|substitution_marker
12|variant_with_square
12|with_arc
17|downwards_zigzag_arrow
7|rc_greater-than_bracket
8|row_with_circled_plus
17|small_circle
6|black_lenticular_bracket
12|tortoise_shell_bracket
6|ceiling
7|orner_bracket
7|urly_bracket
19|_lower_hook
20|middle_piece
20|upper_hook
6|dotted_substitution_bracket
8|uble_angle_bracket
14|rrow_with_rounded_head
13|parenthesis
13|quotation_mark
13|wiggly_fence
6|fish_tail
8|ve_eighths_block
7|loor
6|half_black_circle
17|star
13|ock
11|folder
11|medium_shade
11|running_man
8|nd_telephone_receiver
6|low_paraphrase_bracket
6|normal_factor_semidirect_product
6|one_eighth_block
10|quarter_block
7|pen_squared_dot
7|uter_join
6|parenthesis
17|_extension
18|lower_hook
18|upper_hook
6|raised_omission_bracket
6|s-shaped_bag_delimiter
7|emidirect_product
8|ven_eighths_block
7|ideways_u_bracket
8|ngle_quotation_mark
7|peaker
13|_with_one_sound_wave
19|three_sound_waves
9|ech_bubble
7|quare_bracket
20|_extension
21|lower_corner
21|upper_corner
21|with_double_stroke
26|quill
26|stroke
26|tick_in_bottom_corner
34|top_corner
26|underbar
7|ubstitution_bracket
6|tack
7|hird_white_right_pointing_index
8|ought_bubble
8|ree_eighths_block
12|quarters_block
7|ortoise_shell_bracket
7|ransposition_bracket
8|iangle
14|_above_left_triangle
12|ular_one_quarter_block
6|vertical_bar_with_quill
16|ox_line
6|white_corner_bracket
13|urly_bracket
12|lenticular_bracket
12|parenthesis
12|square_bracket
12|tortoise_shell_bracket
7|iggly_fence
5|hand_interior_product
5|wards_arrow
16|-tail
16|_above_almost_equal_to
23|reverse_almost_equal_to
31|tilde_operator
23|short_leftwards_arrow
23|tilde_operator
18|nd_upper_and_lower_one_eighth_block
17|from_bar
25|_to_black_diamond
17|over_leftwards_arrow
17|through_greater-than
25|superset
25|x
18|o_bar
21|lack_diamond
17|with_corner_downwards
22|dotted_stem
24|uble_vertical_stroke
22|equilateral_arrowhead
22|hook
22|large_triangle_arrowhead
23|oop
22|medium_triangle_arrowhead
22|notched_tail
22|plus_below
22|small_equilateral_arrowhead
28|triangle_arrowhead
23|troke
22|tail
26|_with_double_vertical_stroke
32|vertical_stroke
23|ip_downwards
26|upwards
22|vertical_stroke
11|back-tilted_shadowed_white_arrow
12|lack_arrow
17|circled_white_arrow
12|ottom_shaded_white_arrow
11|compressed_arrow
11|dashed_arrow
12|ouble_arrow
23|-tail
23|_from_bar
24|with_stroke
29|vertical_stroke
18|dash_arrow
11|finger-post_arrow
12|ront-tilted_shadowed_white_arrow
11|hand
13|rpoon_over_leftwards_harpoon
19|with_barb_down_above_leftwards_harpoon_with_barb_down
34|below_long_dash
34|from_bar
34|to_bar
33|wards
29|up_above_leftwards_harpoon_with_barb_up
39|ong_dash
38|rightwards_harpoon_with_barb_down
32|from_bar
32|to_bar
31|wards
12|eavy_arrow
17|compressed_arrow
11|left-shaded_white_arrow
11|open-headed_arrow
11|paired_arrows
11|quadruple_arrow
11|right-shaded_white_arrow
12|ocket
11|sans-serif_arrow
12|quared_arrow
14|iggle_arrow
11|top_shaded_white_arrow
12|riangle-headed_arrow
32|_over_leftwards_triangle-headed_arrow
33|to_bar
33|with_bold_shaft
38|double_horizontal_stroke
45|vertical_stroke
38|heavy_shaft
38|long_tip_downwards
47|upwards
38|medium_shaft
38|narrow_shaft
38|very_heavy_shaft
27|dashed_arrow
27|paired_arrows
19|_arrowhead
14|ple_arrow
18|dash_arrow
12|wo-headed_arrow_from_bar
28|with_double_vertical_stroke
33|tail
37|_with_double_vertical_stroke
43|vertical_stroke
34|riangle_arrowheads
33|vertical_stroke
22|triple_dash_arrow
14|_headed_arrow
11|wave_arrow
12|hite_arrow
22|_from_wall
23|within_triangle_arrowhead
2|ng
4|_above
5|buoy
5|equal_to
5|in_equal_to
5|operator
5|point
4|ed_planet
4|ing_bell
2|sing_diagonal_crossing_falling_diagonal
25|south_east_arrow
1|le
2|i
2|m
2|o
1|oasted_sweet_potato
2|bot_face
2|ck
4|et
2|ll_of_paper
4|ed-up_newspaper
5|r_coaster
7|skate
4|ing_on_the_floor_laughing
2|man_as_sign
6|centurial_sign
6|denarius_sign
7|imidia_sextula_sign
7|upondius_sign
6|numeral_eight
15|leven
14|fifty
19|_early_form
20|thousand
16|ve
18|_hundred
19|thousand
15|our
14|nine
14|one
17|_hundred
25|_thousand
18|thousand
26|_c_d
14|reversed_one_hundred
14|seven
15|ix
17|_late_form
14|ten
17|_thousand
15|hree
15|welve
16|o
6|quinarius_sign
6|semuncia_sign
8|stertius_sign
8|xtans_sign
10|ula_sign
7|iliqua_sign
6|uncia_sign
2|oster
2|se
4|tte
2|tated_capital_q
8|floral_heart_bullet
8|heavy_black_heart_bullet
8|light_four_pointed_black_cusp
8|white_four_pointed_cusp
2|und_pushpin
6|target
5|ed_symbol_for_cai
19|fu
19|lu
19|shou
21|uangxi
19|xi
2|wboat
1|s
1|uble_sign
2|gby_football
2|le-delayed
2|mi_digit_eight
11|five
12|our
11|nine
11|one
11|seven
12|ix
11|three
12|wo
5|fraction_one_half
18|quarter
18|third
14|two_thirds
5|number_eight_hundred
17|y
12|fifty
14|ve_hundred
13|orty
14|ur_hundred
12|nine_hundred
16|ty
12|one_hundred
12|seven_hundred
17|ty
13|ix_hundred
15|ty
12|ten
13|hirty
14|ree_hundred
13|wenty
14|o_hundred
2|nic_arlaug_symbol
6|belgthor_symbol
6|cross_punctuation
6|letter_ac_a
14|esc
14|lgiz_eolhx
14|nsuz_a
13|berkanan_beorc_bjarkan_b
13|c
14|alc
14|ealc
15|n
14|weorth
13|d
14|agaz_daeg_d
14|otted-l
20|n
20|p
13|e
14|ar
14|hwaz_eh_e
14|ng
14|th
13|fehu_feoh_fe_f
14|ranks_casket_ac
28|esc
27|eh
27|is
27|os
13|g
14|ar
14|ebo_gyfu_g
15|r
13|haegl_h
15|glaz_h
13|icelandic-yr
14|ng
16|waz
14|or
14|saz_is_iss_i
14|waz_eoh
13|jeran_j
13|k
14|aun_k
17|a
13|laukaz_lagu_logr_l
14|ong-branch-ar_ae
25|hagall_h
25|madr_m
25|oss_o
25|yr
13|mannaz_man_m
13|naudiz_nyd_naud_n
13|o
14|e
14|n
14|o
14|pen-p
14|s_o
14|thalan_ethel_o
13|pertho_peorth_p
13|q
13|raido_rad_reid_r
13|sh
15|ort-twig-ar_a
24|bjarkan_b
24|hagall_h
24|madr_m
24|naud_n
24|oss_o
24|sol_s
24|tyr_t
24|yr
14|igel_long-branch-sol_s
14|owilo_s
14|tan
13|thurisaz_thurs_thorn
14|iwaz_tir_tyr_t
13|uruz_ur_u
13|v
13|w
14|unjo_wynn_w
13|x
13|y
14|r
13|z
6|multiple_punctuation
6|single_punctuation
6|tvimadur_symbol
3|ner
4|ing_shirt_with_sash
2|pee_sign
2|ssian_astrological_symbol_binovile
28|novile
28|quintile
28|sentagon
28|tredecile
28|vigintile
0|s_in_triangle
1|afety_pin
7|vest
2|gittarius
2|ilboat
2|ke_bottle_and_cup
2|lt_shaker
4|ire
3|uting_face
2|maritan_abbreviation_mark
10|letter_alaf
17|baa
18|it
17|dalat
17|fi
17|gaman
17|in
18|t
18|y
17|kaaf
17|labat
17|mim
17|nun
17|quf
17|rish
17|shan
18|ingaat
17|taaf
18|it
18|saadiy
17|yut
17|zen
10|mark_dagesh
15|epenthetic_yut
15|in
17|-alaf
15|nequdaa
15|occlusion
11|odifier_letter_epenthetic_yut
26|i
26|short_a
10|punctuation_afsaaq
23|nged
24|naau
23|rkaanu
23|tmaau
22|bau
22|melodic_qitsa
22|nequdaa
22|qitsa
22|shiyyaalaa
23|of_mashfaat
22|turu
22|zaef
23|iqaa
10|vowel_sign_a
22|a
21|e
21|i
21|long_a
27|a
26|e
26|i
26|u
21|o
22|verlong_a
31|a
21|short_a
22|ukun
21|u
2|ndwich
3|s-serif_heavy_double_comma_quotation_mark_ornament
24|turned_comma_quotation_mark_ornament
17|low_double_comma_quotation_mark_ornament
11|interrobang_ornament
2|ri
2|tellite
9|_antenna
3|urn
2|urashtra_consonant_sign_haaru
11|danda
12|igit_eight
17|five
18|our
17|nine
17|one
17|seven
18|ix
17|three
18|wo
17|zero
12|ouble_danda
11|letter_a
19|a
19|i
19|u
18|ba
19|ha
18|ca
19|ha
18|da
19|da
20|ha
19|ha
18|e
19|e
18|ga
19|ha
18|ha
18|i
19|i
18|ja
19|ha
18|ka
19|ha
18|la
19|la
18|ma
18|na
19|ga
19|na
19|ya
18|o
19|o
18|pa
19|ha
18|ra
18|sa
19|ha
19|sa
18|ta
19|ha
19|ta
20|ha
18|u
19|u
18|va
19|ocalic_l
27|l
26|r
27|r
18|ya
11|sign_anusvara
16|candrabindu
16|virama
18|sarga
11|vowel_sign_aa
23|i
23|u
22|e
23|e
22|i
23|i
22|o
23|o
22|u
23|u
22|vocalic_l
31|l
30|r
31|r
4|opod
2|xophone
1|cales
3|rf
2|hool
6|_satchel
2|i
2|ooter
3|rpion
6|us
2|reen
4|wdriver
3|ipt_capital_b
15|e
15|f
15|h
15|i
15|l
15|m
15|p
15|r
7|ligature_et_ornament
7|small_e
13|g
13|l
13|o
3|oll
3|uple
1|eal
3|t
2|cond_place_medal
3|tion_sign
4|or
2|dna
2|e-no-evil_monkey
3|dling
2|gment
7|ed_digit_eight
16|five
17|our
16|nine
16|one
16|seven
17|ix
16|three
17|wo
16|zero
2|lfie
2|micolon
4|direct_product_with_bottom_closed
4|sextile
2|parated_symbol
2|rious_face_with_symbols_covering_mouth
3|vice_mark
2|same_dot
3|quiquadrate
2|t_minus
4|transmit_state
2|wing_needle
2|xtile
1|gc
1|hadowed_white_circle
15|latin_cross
15|star
3|llow_pan_of_food
3|mrock
3|rada_abbreviation_sign
8|continuation_sign
8|danda
9|igit_eight
14|five
15|our
14|nine
14|one
14|seven
15|ix
14|three
15|wo
14|zero
9|ouble_danda
8|ekam
9|xtra_short_vowel_mark
8|headstroke
8|letter_a
16|a
16|i
16|u
15|ba
16|ha
15|ca
16|ha
15|da
16|da
17|ha
16|ha
15|e
15|ga
16|ha
15|ha
15|i
16|i
15|ja
16|ha
15|ka
16|ha
15|la
16|la
15|ma
15|na
16|ga
16|na
16|ya
15|o
15|pa
16|ha
15|ra
15|sa
16|ha
16|sa
15|ta
16|ha
16|ta
17|ha
15|u
16|u
15|va
16|ocalic_l
24|l
23|r
24|r
15|ya
8|om
8|sandhi_mark
9|ection_mark-1
21|2
10|parator
9|ign_anusvara
14|vagraha
13|candrabindu
13|inverted_candrabindu
13|jihvamuliya
13|nukta
13|siddham
13|upadhmaniya
13|virama
15|sarga
9|utra_mark
8|vowel_modifier_mark
14|sign_aa
20|i
20|u
19|e
19|i
20|i
19|o
19|prishthamatra_e
19|u
20|u
19|vocalic_l
28|l
27|r
28|r
4|k
3|ved_ice
4|ian_letter_ado
16|ge
16|h
16|ir
16|re
17|ray
16|sh
16|we
15|bib
15|church
15|dead
15|ear
17|t
16|gg
16|rr
15|fee
15|gag
15|ha-ha
16|ung
15|ian
16|ce
16|f
15|judge
15|kick
15|loll
15|measure
16|ime
15|nun
15|oak
16|il
16|n
16|oze
16|r
16|ut
15|peep
15|roar
15|so
16|ure
15|they
17|igh
16|ot
15|up
15|vow
15|woe
17|ol
15|yea
17|w
15|zoo
2|eep
2|ield
3|ft_in
6|out
3|nto_shrine
3|p
2|ocked_face_with_exploding_head
3|oting_star
3|pping_bags
9|trolley
3|rt_backslanted_south_arrow
7|ent_arrow_pointing_downwards_then_north_east
6|down_tack
15|_with_overbar
6|left_tack
6|rightwards_arrow_above_leftwards_arrow
6|slanted_north_arrow
6|up_tack
13|_above_short_down_tack
14|with_underbar
5|cake
5|hand_format_continuing_overlap
17|down_step
17|letter_overlap
17|up_step
5|s
3|uldered_open_box
3|wer
2|rimp
3|ug
2|uffle_product
2|y
1|i
2|ddham_danda
9|ouble_danda
8|end_of_text_mark
8|letter_a
16|a
16|i
16|lternate_u
16|u
15|ba
16|ha
15|ca
16|ha
15|da
16|da
17|ha
16|ha
15|e
15|ga
16|ha
15|ha
15|i
16|i
15|ja
16|ha
15|ka
16|ha
15|la
15|ma
15|na
16|ga
16|na
16|ya
15|o
15|pa
16|ha
15|ra
15|sa
16|ha
16|sa
15|ta
16|ha
17|ree-circle_alternate_i
16|ta
17|ha
16|wo-circle_alternate_i
37|i
15|u
16|u
15|va
16|ocalic_l
24|l
23|r
24|r
15|ya
8|repetition_mark-1
24|2
24|3
8|section_mark_double_ring
32|_with_rays
21|with_circles_and_four_enclosures
38|rays
38|two_enclosures
26|double_crescents
26|quadruple_crescents
26|rays_and_dotted_crescents
42|double_crescents
42|triple_crescents
26|septuple_crescents
26|trident_and_dotted_crescents
38|u-shaped_ornaments
29|ple_crescents
10|parator_bar
18|dot
9|ign_anusvara
13|candrabindu
13|nukta
13|siddham
13|virama
15|sarga
8|vowel_sign_aa
20|i
20|lternate_u
30|u
20|u
19|e
19|i
20|i
19|o
19|u
20|u
19|vocalic_r
28|r
3|eways_black_down_pointing_index
15|left_pointing_index
15|right_pointing_index
15|up_pointing_index
9|white_down_pointing_index
15|left_pointing_index
15|right_pointing_index
15|up_pointing_index
2|gn_of_the_horns
4|writing_air_blow_small_rotations
20|ing_out
16|suck_small_rotations
20|ing_in
12|breath_exhale
19|inhale
14|ush_between
18|multiple
18|single
12|cheeks_neutral
19|puffed
19|sucked
13|olon
14|mma
12|dreamy_eyebrows_down_neutral
28|neutral_down
36|up
28|up_neutral
13|ynamic_arrowhead_large
30|small
20|every_other_time
20|fast
20|gradual
20|relaxed
20|simultaneous
32|_alternating
21|low
20|tense
12|ears
13|xcitement
13|ye_blink_multiple
22|single
16|wink
15|brows_straight_down
30|neutral
30|up
15|gaze-floorplane_curved
31|straight
39|_alternating
40|double
20|wallplane_circling
31|urved
30|straight
38|_alternating
39|double
15|lashes_down
22|fluttering
22|up
15|s_closed
17|half_closed
22|open
17|open
17|squeezed
17|wide_open
21|ning_movement
12|face_direction_position_nose_forward_tilting
41|up_or_down
51|_tilting
13|ill_modifier-2
26|3
26|4
26|5
26|6
14|nger
13|lick_large_multiple
24|single
18|sequential
19|mall_multiple
24|single
14|oorplane_shoulder_hip_move
13|orehead_contact
21|neutral
21|wrinkled
13|ull_stop
12|grasp_between
18|multiple
18|single
12|hair
14|nd-angle
22|_index
28|_middle_little
36|ring
29|ring_little
40|_out
29|thumb
34|_in
35|out
23|little_index
35|_thumb_index_thumb
53|_out
30|up
23|middle_ring_little
41|_in
42|out
23|ring_down_middle_thumb_index_cross
28|little
17|circle
23|_index
29|_bent
30|hinge
30|middle
36|_cross_little
42|ed
37|little
37|ring
37|thumb
30|ring_little
24|little_index
31|up
24|middle_ring_little
42|_bent
31|up
24|ring_little
18|law
21|_four_fingers_conjoined
22|index_thumb_curve_thumb_inside
22|middle_ring_little_conjoined
50|_side
22|no_thumb
22|thumb_forward
28|side
18|up
20|_five_fingers_spread
40|_open
21|index
26|_ring_little
27|thumb
32|_open
21|middle_ring_little
21|no_thumb
21|open
25|_no_thumb
26|thumb_forward
32|side
21|thumb_forward
27|side
19|rlicue
25|_index_ring_little_on
26|middle_ring_little_on
26|open
17|fist
21|_four_fingers_conjoined_bent
22|heel
22|index
27|_bent
32|_over_middle
28|cupped
28|hinged
34|_low
35|middle_up
44|_thumb_side
28|middle
34|_bent
39|_thumb_straight
35|conjoined
44|_cupped
51|_thumb_forward
45|hinged
51|_thumb_side
45|index_bent
45|middle_bent
45|thumb_forward
51|side
55|_bent
56|conjoined
36|ross_little
40|ed
42|_thumb_side
35|hinged
41|_spread_thumb_side
35|little
35|raised_knuckles
36|ing
39|_bent
40|conjoined
35|straight_thumb_bent
35|thumb
40|_angled
47|_out
41|bent
41|circled
42|onjoined_hinged
42|upped
41|hinged
42|ooked
35|up_spread_thumb_forward
28|raised_knuckle
29|ing_little
28|thumb_angled_in_middle_up
41|out_middle_up
34|circle
40|d_middle_up
35|upped_middle_up
36|rlicue
37|ve_thumb_inside
46|under
34|forward_index_bent
48|straight
34|hook
38|ed_middle_hinged
48|up
34|side
38|_both_bent
39|index_bent
45|hinge
39|thumb_bent
45|conjoined
45|diagonal
28|up_middle_hinged
44|_thumb_conjoined
51|side
22|little_bent
29|down
33|_others_circled
34|ripple_curved
41|straight
29|index
34|_thumb
29|raised_knuckle
29|thumb
30|ouches_thumb
29|up
22|middle_bent_over_index
29|down
29|little
29|raised_knuckle
30|ing_little
29|thumb_angled_index_up
42|out_index_crossed
52|up
35|circled_index_hinged
49|up
36|upped_index_up
35|hooked_index_up
35|little
29|up
31|_thumb_side
22|ring_down
27|index
27|little
27|middle
33|_conjoined
34|raised_knuckles
27|raised_knuckle
27|thumb
27|up
22|thumb
27|_between_index_middle
48|_straight
36|middle_ring
36|ring_little
28|forward
28|heel
28|over_four_raised_knuckles
33|two_fingers
28|side_bent
33|conjoined
33|diagonal
28|under_four_fingers
34|index_bent
34|little_up
34|three_fingers
35|wo_fingers
18|lat
21|_between_palm_facings
22|five_fingers_spread
41|_bent
42|four_bent
42|hinged
48|_no_thumb
49|thumb_side
42|thumb_forward
23|our_fingers
34|_bent
35|conjoined
44|_split
35|hinged
22|heel
26|_five_fingers_spread
46|_bent
47|four_bent
27|thumb_side
22|split_centre
34|_thumb_side
45|_bent
28|index_thumb_side
28|little
22|thumb_bent
28|forward
28|side
17|hinge
22|_five_fingers_spread_open
24|our_fingers_conjoined
23|index
28|_hinged
29|middle_little
36|ring
40|_conjoined
29|ring_little
29|thumb
34|_large
35|open
35|side
36|mall
23|little
29|_index
35|_thumb
30|thumb
23|middle
29|_ring_little
23|no_thumb
23|open
27|_no_thumb
28|thumb_forward
34|side
23|ring
27|_down_index_thumb_hook_middle
23|small
23|thumb_between_middle_ring
29|side
33|_touching_index
18|ook
21|_curlicue
22|index_ring_little_in
40|out
40|under
22|middle_ring_little_conjoined
50|_in
51|out
29|thumb
22|ring_thumb
17|oval
21|_five_fingers_spread
22|index
22|little_up
22|no_thumb
22|ring_little
22|thumb_forward
28|side
13|ead
16|_movement-floorplane_curve
37|straight
26|wallplane_curve
36|straight
36|tilt
25|_circle
17|rim
12|limb_combination
17|length-1
24|2
24|3
24|4
24|5
24|6
24|7
14|p_lower_over_upper
16|upper_over_lower
15|s_pressed_together
13|ocation-floorplane_space
21|wallplane_space
20|_depth
21|head_neck
23|ight
21|limbs_digits
21|torso
21|width
12|mouth_closed_contact
25|forward
25|neutral
19|orners
18|frown
23|_open
24|wrinkled
18|kiss
22|_forward
23|wrinkled
18|open_circle
23|forward
23|oval
27|_wrinkled
28|yawn
23|rectangle
32|_wrinkled
33|yawn
23|wrinkled
18|smile
23|_open
24|wrinkled
18|tense
23|_forward
24|sucked
18|wrinkles_double
27|single
14|vement-diagonal_away_large
40|st
35|medium
35|small
30|between_away_large
48|st
43|medium
43|small
38|towards_large
51|st
46|medium
46|small
30|towards_large
43|st
38|medium
38|small
21|floorplane_arm_circle_hitting_wall_large_double
62|single
56|medium_double
63|single
56|small_double
62|single
32|bend
33|ox_large
36|medium
36|small
32|check
33|orner_large
39|medium
39|small
33|ross
33|urve_combined
38|hitting_ceiling_large
54|small
46|floor_large
52|small
38|large
43|st
38|medium
38|small
32|double_alternating
50|_wrist_flex
39|straight
39|wrist_flex
32|finger_circles_hitting_wall_double
60|single
40|ontact
32|hump_hitting_ceiling_large_double
59|triple
53|small_double
59|triple
45|floor_large_double
51|small_double
51|triple_large_triple
58|small_triple
37|small
32|jaw
32|loop_hitting_ceiling_large_double
59|single
53|small_double
59|single
45|floor_large_double
57|single
51|small_double
57|single
37|small
32|peaks_large
38|medium
38|small
32|shaking_parallel
33|ingle_straight_large
53|st
48|medium
48|small
39|wrist_flex
32|triple_alternating_movement
51|wrist_flex
39|straight_movement
39|wrist_flex
32|wave_hitting_ceiling_large
53|small
45|floor_large
51|small
37|large
37|small
38|nake
33|rist_circle_hitting_wall_double
58|single
32|zigzag_large
39|medium
39|small
21|hinge_down_sequential
27|side_to_side_scissors
27|up_down_alternating_large
47|small
35|large
35|small
30|sequential
21|wallplane_arm_circle_medium_double
49|single
42|small_double
48|single
31|bend_large
36|medium
36|small
32|ox_large
35|medium
35|small
31|check_large
37|medium
37|small
32|orner_large
38|medium
38|rotation
38|small
32|ross
32|urve_half-circle_large
54|st
49|medium
49|small
38|itting_chest
45|front_wall
37|quarter_large
50|st
45|medium
45|small
37|then_straight
39|ree-quarter_circle_medium
58|small
36|d_cross_medium
44|small
31|double_alternating
49|_wrist_flex
38|straight
38|wrist_flex
31|finger_circles_double
46|single
39|ontact
31|hump_hitting_chest
44|front_wall
36|large
36|medium
36|small
31|jaw
31|loop_hitting_chest
44|front_wall
36|large
36|medium
36|small
41|_double
31|peaks_large
37|medium
37|small
31|shaking
32|ingle_straight_large
52|st
47|medium
47|small
38|wrist_flex
31|triple_alternating
49|_wrist_flex
38|straight_movement
38|wrist_flex
31|wave_curve_double_large
49|medium
49|small
42|triple_large
49|medium
49|small
36|diagonal_path_large
50|medium
50|small
36|hitting_chest
44|front_wall
32|rist_circle_front_double
50|single
31|zigzag_large
38|medium
38|small
12|neck
13|ose_contact
17|neutral
17|wiggles
18|rinkles
12|parenthesis
12|rotation-floorplane_alternating
43|_hitting_ceiling
52|floor
32|double
38|_hitting_ceiling
47|floor
32|single
38|_hitting_ceiling
47|floor
21|wallplane_alternate
39|ing_hitting_chest
51|front_wall
31|double
37|_hitting_chest
46|front_wall
31|single
37|_hitting_chest
46|front_wall
20|_modifier-10
31|1
31|2
31|3
31|4
31|5
31|6
30|2
30|3
30|4
30|5
30|6
30|7
30|8
30|9
13|ub_between
16|multiple
16|single
12|semicolon
13|houlder_hip_positions
25|spine
21|tilting_from_waist
13|queeze_flick_alternating
20|large_multiple
26|single
20|sequential
21|mall_multiple
26|single
13|trike_between
19|multiple
19|single
13|urface_between
20|symbols
12|teeth
17|_bite_lips
18|movement
18|on_lips
25|_movement
21|tongue
27|_movement
14|nse_cheeks_high
25|low
25|middle
13|ongue_centre_inside_mouth
26|sticking_out
19|inside_mouth_relaxed
19|licking_lips
19|moves_against_cheek
19|sticking_out_far
19|tip_between_lips
23|touching_inside_mouth
14|rso-floorplane_twisting
18|wallplane_curved_bend
28|straight_stretch
14|uch_between
18|multiple
18|single
13|ravel-floorplane_rotation-floorplane_alternating
50|double
50|single
39|wallplane_alternating
49|double
49|single
30|shaking
19|wallplane_arm_spiral_double
40|single
40|triple
29|rotation-floorplane_alternating
49|double
49|single
38|wallplane_alternating
48|double
48|single
29|shaking
12|upper_body_tilting_from_hip_joints
12|wallplane_shoulder_hip_move
2|lhouette_of_japan
2|milar_above_greater-than_above_equals_sign
14|less-than_above_equals_sign
8|minus_similar
8|or_greater-than
11|less-than
2|ne_wave
3|gle-shift-2
13|3
6|_character_introducer
7|graphic_character_introducer
7|high-reversed-9_quotation_mark
7|left-pointing_angle_quotation_mark
8|ow-9_quotation_mark
7|right-pointing_angle_quotation_mark
7|shift_three
14|wo
3|hala_archaic_digit_eight
22|five
23|our
22|nine
22|one
22|seven
23|ix
22|three
23|wo
16|number_eighty
23|fifty
24|orty
23|ninety
23|one_hundred
27|thousand
23|seventy
24|ixty
23|ten
24|hirty
24|wenty
8|letter_aayanna
16|eeyanna
17|yanna
16|iyanna
16|lpapraana_bayanna
26|cayanna
26|dayanna
27|dayanna
26|gayanna
26|jayanna
26|kayanna
26|payanna
26|tayanna
27|tayanna
16|mba_bayanna
16|uyanna
16|yanna
15|dantaja_layanna
23|nayanna
23|sayanna
15|eeyanna
16|yanna
15|fayanna
15|hayanna
15|iiyanna
16|luuyanna
18|yanna
16|ruuyanna
18|yanna
16|yanna
15|kantaja_naasikyaya
15|mahaapraana_bayanna
27|cayanna
27|dayanna
28|dayanna
27|gayanna
27|jayanna
27|kayanna
27|payanna
27|tayanna
28|tayanna
17|yanna
16|uurdhaja_layanna
25|nayanna
25|sayanna
15|ooyanna
16|yanna
15|rayanna
15|sanyaka_dayanna
24|dayanna
23|gayanna
23|jayanna
15|taaluja_naasikyaya
23|sanyooga_naaksikyaya
25|yanna
15|uuyanna
16|yanna
15|vayanna
15|yayanna
9|ith_digit_eight
19|five
20|our
19|nine
19|one
19|seven
20|ix
19|three
20|wo
19|zero
8|punctuation_kunddaliya
8|sign_al-lakuna
14|nusvaraya
13|candrabindu
13|visargaya
8|vowel_sign_aela-pilla
19|diga_aeda-pilla
24|gaetta-pilla
26|yanukitta
24|is-pilla
24|kombuva
24|paa-pilla
19|gaetta-pilla
21|yanukitta
19|ketti_aeda-pilla
25|is-pilla
25|paa-pilla
20|ombu_deka
24|va
26|_haa_aela-pilla
31|diga_aela-pilla
31|gayanukitta
2|x-per-em_space
3|_petalled_black_and_white_florette
5|ointed_black_star
12|pinwheel_star
12|star_with_middle_dot
3|teen_pointed_asterisk
1|kateboard
2|i_and_ski_boot
3|er
2|ull
5|_and_crossbones
3|nk
1|lanted_equal_to_or_greater-than
32|_with_dot_inside
20|less-than
29|_with_dot_inside
8|north_arrow_with_hooked_head
27|rizontal_tail
3|vonic_asterisk
2|ed
3|eping_accommodation
9|face
9|symbol
5|y_face
3|uth_or_spy
2|ice_of_pizza
3|ghtly_frowning_face
9|smiling_face
2|ope
4|ing_large_and
14|or
3|t_machine
4|h
1|mall_airplane
7|mpersand
7|sterisk
6|blue_diamond
6|colon
8|mma
10|ercial_at
8|ntains_as_member
15|with_overbar
20|vertical_bar_at_end_of_horizontal_stroke
6|dollar_sign
6|element_of
16|_with_overbar
22|vertical_bar_at_end_of_horizontal_stroke
7|m_dash
7|quals_sign
7|xclamation_mark
6|full_stop
6|greater-than_sign
6|hyphen-minus
6|ideographic_comma
6|left_curly_bracket
11|parenthesis
11|tortoise_shell_bracket
8|ss-than_sign
6|number_sign
6|orange_diamond
6|percent_sign
7|lus_sign
6|question_mark
6|reverse_solidus
7|ight_curly_bracket
12|parenthesis
12|tortoise_shell_bracket
7|oman_numeral_eight
21|leven
20|fifty
22|ve
24|_hundred
21|our
20|nine
20|one
23|_hundred
24|thousand
20|seven
21|ix
20|ten
21|hree
21|welve
22|o
6|semicolon
6|tilde
7|wo_dots_over_one_dot_punctuation
6|vee_with_underbar
5|er_than
12|_or_equal_to
3|sh_product
2|ile
4|ing_cat_face_with_heart-shaped_eyes
22|open_mouth
8|face_with_halo
19|eart-shaped_eyes
19|orns
18|open_mouth
28|_and_cold_sweat
33|smiling_eyes
33|tightly-closed_eyes
18|smiling_eyes
30|_and_hand_covering_mouth
35|three_hearts
19|unglasses
18|tear
3|rking_face
2|oking_symbol
1|nail
3|ke
2|eezing_face
2|ow_capped_mountain
4|boarder
4|flake
4|man
7|_without_snow
1|o
2|ccer_ball
3|ks
2|ft_hyphen
5|ice_cream
5|shell_floppy_disk
4|ball
4|ware-function_symbol
2|gdian_combining_curve_above
24|below
18|dot_above
22|below
18|hook_above
23|below
18|long_hook_below
18|resh_below
18|stroke_below
18|two_dots_above
27|below
8|independent_shin
8|letter_aleph
16|yin
15|beth
15|feth
15|gimel
15|he
17|th
15|kaph
15|lamedh
16|esh
15|mem
15|nun
15|pe
15|resh-ayin
15|sadhe
17|mekh
16|hin
15|taw
15|waw
15|yodh
15|zayin
8|number_one
18|_hundred
15|ten
16|wenty
8|punctuation_circle_with_dot
20|half_circle_with_dot
20|two_circles_with_dots
24|vertical_bars
37|_with_dots
2|h
2|lid_quilt_square_ornament
27|_in_black_square
5|us
7|_with_overbar
2|m_sign
2|on_with_rightwards_arrow_above
2|ra_sompeng_digit_eight
19|five
20|our
19|nine
19|one
19|seven
20|ix
19|three
20|wo
19|zero
13|letter_ah
20|bah
20|cah
20|dah
20|eeh
21|h
20|gah
20|hah
20|ih
20|jah
20|kah
20|lah
20|mae
22|h
20|nah
21|gah
21|yah
20|oh
20|pah
20|rah
20|sah
20|tah
20|uh
20|vah
20|yah
2|s
2|und_recording_copyright
3|th_east_arrow
16|_and_south_west_arrow
17|crossing_north_east_arrow
17|to_corner
17|with_hook
11|black_arrow
11|double_arrow
11|pointing_bud
20|leaf
20|vine_leaf
11|sans-serif_arrow
11|triangle-headed_arrow
32|_to_bar
11|white_arrow
6|west_arrow
16|_and_north_west_arrow
17|with_hook
11|black_arrow
11|double_arrow
11|pointing_bud
20|leaf
20|vine_leaf
11|sans-serif_arrow
11|triangle-headed_arrow
32|_to_bar
11|white_arrow
2|yombo_cluster-initial_letter_la
31|ra
31|sa
32|ha
8|final_consonant_sign_-a
29|b
29|d
29|g
29|k
29|l
29|m
29|n
30|g
29|r
29|s
30|h
8|gemination_mark
8|head_mark_with_moon_and_sun
35|_and_flame
40|triple_flame
8|letter_-a
15|a
15|ba
16|ha
15|ca
16|ha
15|da
16|da
17|ha
16|ha
16|za
15|ga
16|ha
15|ha
15|ja
16|ha
15|ka
16|ha
16|ssa
15|la
15|ma
15|na
16|ga
16|na
16|ya
15|pa
16|ha
15|ra
15|sa
16|ha
16|sa
15|ta
16|ha
16|sa
17|ha
16|ta
17|ha
15|va
15|ya
15|za
16|ha
8|mark_double_shad
13|pluta
13|shad
13|tsheg
8|sign_anusvara
13|jihvamuliya
13|upadhmaniya
13|visarga
9|ubjoiner
8|terminal_mark-1
22|2
8|vowel_length_mark
14|sign_ai
20|u
19|e
19|i
19|o
20|e
19|u
20|e
19|vocalic_l
27|r
1|p
2|a
3|ce
3|ghetti
3|rkle
7|s
6|ing_heart
2|eak-no-evil_monkey
5|er
7|_with_cancellation_stroke
13|one_sound_wave
13|three_sound_waves
5|ing_head_in_silhouette
3|ech_balloon
4|dboat
3|smilo_sign
2|herical_angle
15|_opening_left
24|up
2|ider
6|_web
3|ral_calendar_pad
7|note_pad
7|shell
2|lashing_sweat_symbol
2|onge
3|ol_of_thread
4|n
3|rts_medal
3|uting_whale
1|quare_a_over_m
8|aru
8|m
8|npea
8|paato
8|ruhua
8|u
7|baareru
9|r
8|eeta
8|iru
8|oruto
8|q
8|ussyeru
7|c_over_kg
8|al
9|p
8|c
8|d
8|m
9|_cubed
10|squared
8|o
9|rporation
8|up
7|da
9|asu
8|b
8|esi
8|j
8|l
8|m
9|_cubed
10|squared
8|oru
7|eekaa
8|ra_name_heisei
16|meizi
16|reiwa
16|syouwa
16|taisyou
9|g
8|sukuudo
8|v
7|fm
8|oot
9|ur_corners
7|gal
9|nma
9|ron
8|b
8|hz
8|iga
9|nii
9|rudaa
8|pa
8|uramu
13|ton
8|y
7|ha
9|itu
8|ekutaaru
9|rutu
8|g
8|iragana_hoka
8|on
9|on
10|ru
8|p
9|a
8|uaraddo
9|iito
9|ran
8|z
7|image_of
15|_or_equal_to
19|not_equal_to
8|n
9|ingu
9|ti
8|u
7|k_ohm
8|a
9|iri
9|ratto
10|orii
8|b
8|cal
8|eesu
8|g
8|hz
8|iro
11|guramu
11|meetoru
11|watto
8|k
8|l
8|m
9|_capital
11|ubed
10|squared
8|oopo
9|runa
8|pa
8|t
8|uroone
10|uzeiro
8|v
8|w
8|yurii
7|left_open_box_operator
8|m
8|n
8|og
9|zenge
8|x
7|m_cubed
9|ohm
10|ver_s
15|_squared
9|squared
8|a
9|hha
9|ikuro
10|ru
9|nsyon
9|ruku
8|b
9|_small
8|eetoru
9|ga
11|ton
8|g
8|hz
8|ikuron
9|l
9|ri
11|baaru
8|l
8|m
9|_cubed
10|squared
8|ol
8|pa
8|s
8|u_a
10|f
10|g
10|l
10|m
10|s
10|v
10|w
8|v
9|_mega
8|w
9|_mega
7|na
9|no
8|f
8|m
8|otto
8|s
8|v
8|w
7|onsu
8|omu
8|riginal_of
18|_or_equal_to
22|not_equal_to
8|v
7|pa
9|_amps
9|asento
10|tu
8|c
8|eezi
9|nihi
10|su
9|so
8|f
8|h
8|iasutoru
9|ko
10|uru
8|m
8|ointo
9|ndo
9|sition_indicator
8|pm
8|r
8|s
8|v
8|w
7|rad
10|_over_s
17|_squared
8|emu
9|ntogen
8|ight_open_box_operator
9|ra
9|ttoru
8|oot
8|upii
9|uburu
7|saikuru
9|ntiimu
8|enti
11|o
8|iringu
8|r
8|v
7|target
8|hz
8|on
7|uon
7|v_over_m
7|watto
8|b
8|ith_bottom_half_black
12|contoured_outline
12|diagonal_crosshatch_fill
12|horizontal_fill
12|left_half_black
13|ower_left_diagonal_half_black
18|right_diagonal_half_black
12|orthogonal_crosshatch_fill
12|right_half_black
12|top_half_black
12|upper_left_diagonal_half_black
23|to_lower_right_fill
18|right_diagonal_half_black
24|to_lower_left_fill
12|vertical_fill
7|yaado
10|ru
8|uan
6|d_asterisk
8|cjk_unified_ideograph-4e00
33|9
32|2d
32|8c
32|a4
30|518d
31|21d
32|4d
32|72
31|3cc
32|f3
31|408
32|39
31|5b6
31|8f0
31|91a
32|29
31|b57
31|de6
31|f8c
30|624b
32|53
32|95
31|307
32|55
31|599
32|b0
31|620
31|708
33|9
31|e80
31|f14
30|7121
31|51f
32|33
31|981
31|a7a
31|d42
30|89e3
31|ca9
31|d70
30|904a
31|14d
9|l
9|ool
8|dot_operator
8|eight_k
8|falling_diagonal_slash
9|ive_point_one
9|our_dot_punctuation
13|k
9|ree
8|hc
9|dr
9|i-res
9|v
8|id
8|katakana_de
17|koko
17|sa
9|ey
8|latin_capital_letter_a
29|b
29|c
29|d
29|e
29|f
29|g
29|h
29|i
29|j
29|k
29|l
29|m
29|n
29|o
29|p
29|q
29|r
29|s
29|t
29|u
29|v
29|w
29|x
29|y
29|z
14|small_letter_d
9|ogical_and
16|or
10|ssless
8|minus
9|v
8|new
9|g
8|ok
9|ne_hundred_twenty_p
8|plus
9|pv
8|rising_diagonal_slash
8|saltire
9|d
9|econd_screen
10|ven_point_one
9|hv
9|ixty_p
9|mall_circle
9|os
9|quare
9|s
8|three_d
9|imes
9|wenty-two_point_two
10|o_k
8|uhd
9|p_with_exclamation_mark
8|vod
9|s
8|wc
4|t_black_rightwards_arrow
3|id
1|s2
2|3
2|a
1|t
2|adium
3|ff_of_aesculapius
9|hermes
3|mped_envelope
3|nding_person
3|r_and_crescent
5|equals
5|of_david
6|perator
5|with_left_half_black
10|right_half_black
4|t_of_guarded_area
9|heading
9|protected_area
9|selected_area
10|tring
9|text
3|tion
4|ue_of_liberty
2|eam_locomotive
5|ing_bowl
3|nographic_full_stop
3|thoscope
2|ick_figure
12|_leaning_left
21|right
13|with_arms_raised
18|dress
2|ock_chart
3|pwatch
2|raight_ruler
8|ness
4|wberry
3|ess_outlined_white_star
3|ictly_equivalent_to
4|ng_terminator
2|s
2|udio_microphone
3|ffed_flatbread
3|pa
2|x
1|ub
3|script_eight
11|quals_sign
10|five
11|our
10|left_parenthesis
10|minus
10|nine
10|one
10|plus_sign
10|right_parenthesis
10|seven
11|ix
10|three
11|wo
10|zero
4|et_above_rightwards_arrow
13|subset
15|perset
7|of
9|_above_almost_equal_to
16|equals_sign
16|not_equal_to
16|tilde_operator
10|or_equal_to
21|_with_dot_above
10|with_not_equal_to
7|with_dot
12|multiplication_sign_below
12|plus_sign_below
4|titute
2|cceeds
8|_above_almost_equal_to
15|equals_sign
15|not_almost_equal_to
19|equal_to
15|single-line_equals_sign
27|not_equal_to
9|but_not_equivalent_to
9|or_equal_to
15|ivalent_to
9|under_relation
2|mmation_bottom
10|top
10|with_integral
2|n
3|_behind_cloud
4|with_face
3|danese_avagraha
10|consonant_sign_pamingkal
27|nyakra
29|iku
27|sangan_ma
34|wa
10|digit_eight
16|five
17|our
16|nine
16|one
16|seven
17|ix
16|three
17|wo
16|zero
10|letter_a
18|e
17|ba
18|ha
17|ca
17|da
17|e
18|u
17|fa
18|inal_k
23|m
17|ga
17|ha
17|i
17|ja
17|ka
18|ha
17|la
18|eu
17|ma
17|na
18|ga
18|ya
17|o
17|pa
17|qa
17|ra
18|eu
17|sa
18|ya
17|ta
17|u
17|va
17|wa
17|xa
17|ya
17|za
10|punctuation_bindu_ba_satanga
28|cakra
28|da_satanga
28|ka_satanga
28|leu_satanga
28|panglong
29|urnama
28|surya
10|sign_pamaaeh
17|nglayar
19|wisad
18|yecek
15|virama
10|vowel_sign_pamepet
23|naelaeng
24|euleung
24|ghulu
24|olong
24|yuku
3|flower
3|rise
7|_over_mountains
3|set_over_buildings
2|perhero
5|script_eight
13|quals_sign
12|five
13|our
12|latin_small_letter_i
31|n
13|eft_parenthesis
12|minus
12|nine
12|one
12|plus_sign
12|right_parenthesis
12|seven
13|ix
12|three
13|wo
12|zero
6|et_above_leftwards_arrow
15|subset
17|perset
9|beside_and_joined_by_dash_with_subset
16|subset
9|of
11|_above_almost_equal_to
18|equals_sign
18|not_equal_to
18|tilde_operator
12|or_equal_to
23|_with_dot_above
12|with_not_equal_to
9|preceding_solidus
9|with_dot
14|multiplication_sign_below
14|plus_sign_below
5|villain
2|rface_integral
4|er
2|shi
3|pension_railway
1|wan
3|sh_ampersand_ornament
2|immer
2|ung_dash
1|yloti_nagri_letter_a
20|bho
21|o
20|cho
21|o
20|ddho
22|o
21|ho
21|o
20|e
20|gho
21|o
20|ho
20|i
20|jho
21|o
20|kho
21|o
20|lo
20|mo
20|no
20|o
20|pho
21|o
20|ro
21|ro
20|so
20|tho
21|o
21|tho
22|o
20|u
13|poetry_mark-1
25|2
25|3
25|4
13|sign_alternate_hasanta
19|nusvara
18|dvisvara
18|hasanta
13|vowel_sign_a
24|e
24|i
24|oo
24|u
2|mbol_for_acknowledge
11|backspace
12|ell
11|cancel
13|rriage_return
11|data_link_escape
12|elete
17|_form_two
13|vice_control_four
26|one
26|three
27|wo
11|end_of_medium
18|text
19|ransmission
30|_block
13|quiry
12|scape
11|file_separator
12|orm_feed
11|group_separator
11|horizontal_tabulation
11|line_feed
11|marks_chapter
11|negative_acknowledge
13|wline
12|ull
11|record_separator
11|samaritan_source
12|hift_in
17|out
12|pace
12|tart_of_heading
20|text
12|ubstitute
21|_form_two
12|ynchronous_idle
11|type_a_electronics
11|unit_separator
11|vertical_tabulation
3|metry
2|n
3|agogue
3|chronous_idle
2|riac_abbreviation_mark
7|barrekh
7|colon_skewed_left
20|right
9|ntraction
7|dotted_zlama_angular
20|horizontal
7|end_of_paragraph
8|sasa_above
13|below
7|feminine_dot
7|harklean_asteriscus
16|metobelus
16|obelus
8|basa-esasa_dotted
12|_above
13|below
8|orizontal_colon
7|letter_alaph
14|beth
14|dalath
15|otless_dalath_rish
14|e
14|final_semkath
14|gamal
19|_garshuni
14|he
16|th
14|kaph
14|lamadh
14|malayalam_bha
24|ja
24|lla
26|la
24|nga
25|na
26|na
25|ya
24|ra
24|ssa
24|tta
15|im
14|nun
14|pe
16|rsian_bheth
22|dhalath
22|ghamal
14|qaph
14|reversed_pe
15|ish
14|sadhe
15|emkath
15|hin
15|ogdian_fe
22|khaph
22|zhain
15|uperscript_alaph
14|taw
15|eth
18|_garshuni
14|waw
14|yudh
18|_he
14|zain
7|music
7|oblique_line_above
20|below
7|pthaha_above
14|below
14|dotted
7|qushshaya
7|rbasa_above
13|below
8|ukkakha
8|waha
7|sublinear_colon
22|_skewed_left
30|right
17|full_stop
9|pralinear_colon
24|_skewed_left
19|full_stop
7|three_dots_above
18|below
8|wo_vertical_dots_above
25|below
7|zqapha_above
14|below
14|dotted
4|nge
0|t-rex
2|shirt
1|ab
3|le_tennis_paddle_and_ball
2|co
2|g_ampersand
5|postrophe
5|sterisk
4|circumflex_accent
5|olon
6|mma
8|ercial_at
4|digit_eight
10|five
11|our
10|nine
10|one
10|seven
11|ix
10|three
11|wo
10|zero
5|ollar_sign
4|equals_sign
5|xclamation_mark
4|full_stop
4|grave_accent
6|eater-than_sign
4|hyphen-minus
4|latin_capital_letter_a
25|b
25|c
25|d
25|e
25|f
25|g
25|h
25|i
25|j
25|k
25|l
25|m
25|n
25|o
25|p
25|q
25|r
25|s
25|t
25|u
25|v
25|w
25|x
25|y
25|z
10|small_letter_a
23|b
23|c
23|d
23|e
23|f
23|g
23|h
23|i
23|j
23|k
23|l
23|m
23|n
23|o
23|p
23|q
23|r
23|s
23|t
23|u
23|v
23|w
23|x
23|y
23|z
5|eft_curly_bracket
9|parenthesis
9|square_bracket
6|ss-than_sign
5|ow_line
4|number_sign
4|percent_sign
5|lus_sign
4|question_mark
6|otation_mark
4|reverse_solidus
5|ight_curly_bracket
10|parenthesis
10|square_bracket
4|semicolon
5|olidus
5|pace
4|tilde
4|vertical_line
3|alog_letter_a
16|rchaic_ra
15|ba
15|da
15|ga
15|ha
15|i
15|ka
15|la
15|ma
15|na
16|ga
15|pa
15|ra
15|sa
15|ta
15|u
15|wa
15|ya
8|sign_pamudpod
13|virama
8|vowel_sign_i
19|u
3|banwa_letter_a
16|ba
16|da
16|ga
16|i
16|ka
16|la
16|ma
16|na
17|ga
16|pa
16|sa
16|ta
16|u
16|wa
16|ya
9|vowel_sign_i
20|u
2|i_le_letter_a
15|i
15|ue
14|e
15|e
15|h
14|fa
14|ha
14|i
14|ka
15|ha
14|la
14|ma
14|na
15|ga
14|o
15|o
14|pa
15|ha
14|qa
14|sa
14|ta
15|ha
15|one-2
19|3
19|4
19|5
19|6
15|sa
16|ha
14|u
15|e
14|va
14|xa
14|ya
4|tham_combining_cryptogrammic_dot
11|nsonant_sign_ba
24|final_nga
24|high_ratha_or_low_pa
24|la_tang_lai
25|ow_pa
24|ma
25|edial_la
31|ra
24|sa
9|hora_digit_eight
20|five
21|our
20|nine
20|one
20|seven
21|ix
20|three
21|wo
20|zero
9|letter_a
16|ba
16|da
16|ee
16|great_sa
16|high_ca
22|ha
21|fa
21|ha
21|ka
22|ha
22|xa
21|pa
22|ha
21|ratha
21|sa
22|ha
22|sa
21|ta
22|ha
21|ya
16|i
17|i
16|la
18|e
17|la
17|ow_ca
21|ha
20|fa
20|ha
20|ka
21|ha
21|xa
20|pa
21|ha
20|ratha
20|sa
20|ta
21|ha
20|ya
17|ue
16|ma
16|na
17|ga
17|ya
16|oo
16|ra
18|na
18|ta
17|ue
16|u
17|u
16|wa
9|sign_caang
14|dokmai
14|hang
15|oy
14|kaan
18|kuu
15|eow
15|huen-lue_karan
19|_tone-3
25|4
25|5
14|mai_kang
22|_lai
18|sam
18|yamok
14|ra_haam
15|eversed_rotated_rana
14|sakot
16|tkaan
21|kuu
16|wan
14|tone-1
19|2
14|wiang
19|waak
9|tham_digit_eight
20|five
21|our
20|nine
20|one
20|seven
21|ix
20|three
21|wo
20|zero
9|vowel_sign_a
21|a
21|e
21|i
20|e
20|i
21|i
20|mai_sat
20|o
21|a_above
23|below
21|o
21|y
20|tall_aa
21|ham_ai
20|u
21|e
21|u
22|e
4|viet_letter_high_bo
21|cho
22|o
21|do
21|fo
21|go
21|ho
21|khho
23|o
22|o
21|lo
21|mo
21|ngo
22|o
22|yo
21|o
21|pho
22|o
21|ro
21|so
21|tho
22|o
21|vo
21|yo
16|low_bo
20|cho
21|o
20|do
20|fo
20|go
20|ho
20|khho
22|o
21|o
20|lo
20|mo
20|ngo
21|o
21|yo
20|o
20|pho
21|o
20|ro
20|so
20|tho
21|o
20|vo
20|yo
9|mai_kang
14|hit
9|symbol_ho_hoi
16|koi_koi
18|n
16|nueng
16|sam
9|tone_mai_ek
18|nueng
18|song
18|tho
9|vowel_aa
16|m
16|n
16|ue
16|y
15|e
15|i
16|a
15|o
15|u
16|a
16|e
17|a
2|keout_box
3|ri_abbreviation_sign
6|digit_eight
12|five
13|our
12|nine
12|one
12|seven
13|ix
12|three
13|wo
12|zero
6|letter_a
14|a
14|i
14|rchaic_kha
14|u
13|ba
14|ha
13|ca
14|ha
13|da
14|da
15|ha
14|ha
13|e
13|ga
14|ha
13|ha
13|i
14|i
13|ja
14|ha
13|ka
14|ha
13|la
13|ma
13|na
14|ga
14|na
14|ya
13|o
13|pa
14|ha
13|ra
14|ra
13|sa
14|ha
13|ta
14|ha
14|ta
15|ha
13|u
14|u
13|va
13|ya
6|sign_anusvara
11|nukta
11|virama
13|sarga
6|vowel_sign_aa
18|i
18|u
17|e
17|i
18|i
17|o
17|u
18|u
2|lly_mark_five
11|one
2|male
3|il_and_odd_sign
7|s_above_sign
7|u_length_mark
6|credit_sign
7|urrent_sign
6|day_sign
7|ebit_sign
7|igit_eight
12|five
13|our
12|nine
12|one
12|seven
13|ix
12|three
13|wo
12|zero
7|ry_cultivation_sign
6|fraction_downscaling_factor_kiizh
15|one_eighth
24|ieth
19|fifth
20|ortieth
19|half-1
24|2
19|one-hundred-and-sixtieth
19|quarter
19|sixteenth-1
29|2
23|y-fourth
19|tenth
20|hirty-second
21|ree-hundred-and-twentieth
20|wentieth
15|three_eightieths
21|quarters
21|sixteenths
25|y-fourths
21|twentieths
6|in_possession_sign
6|land_sign
7|etter_a
14|a
14|i
14|u
13|ca
13|e
14|e
13|ha
13|i
14|i
13|ja
13|ka
13|la
14|la
15|la
13|ma
13|na
14|ga
14|na
15|na
14|ya
13|o
14|o
13|pa
13|ra
14|ra
13|sa
14|ha
14|sa
13|ta
14|ta
13|u
14|u
13|va
13|ya
6|month_sign
6|number_one_hundred
17|thousand
13|sign
13|ten
6|om
6|punctuation_end_of_text
6|rupee_sign
6|salt_pan_sign
7|ign_aazhaakku
12|nusvara
11|cevitu
11|kaacu
12|uruni
13|zhi
11|mukkuruni
13|thaliya
13|uvuzhakku
11|nel
11|paaram
13|nam
13|thakku
12|on
11|uzhakku
11|vakaiyaraa
13|raakan
12|eli
12|irama
13|sarga
7|pent_sign
7|tarting_from_sign
6|total_sign
7|raditional_credit_sign
18|number_sign
6|vowel_sign_aa
18|i
18|u
17|e
18|e
17|i
18|i
17|o
18|o
17|u
18|u
6|wet_cultivation_sign
6|year_sign
2|nabata_tree
3|gerine
4|sa_digit_eight
13|five
14|our
13|nine
13|one
13|seven
14|ix
13|three
14|wo
13|zero
7|letter_ac
15|q
15|wc
16|q
16|x
16|z
15|x
15|z
14|ba
14|ca
15|ha
14|da
15|ha
14|ec
15|q
15|x
15|z
14|fa
15|inal_ng
14|ga
15|ha
14|ha
15|ta
16|ta
14|ic
15|q
15|x
15|z
14|ka
15|ha
14|la
15|ong_uex
14|ma
15|c
15|q
15|x
15|z
14|na
15|ga
15|ha
15|ya
14|oc
15|q
15|x
15|z
14|pa
15|ha
14|ra
14|sa
15|ha
16|ort_awx
20|uez
14|ta
15|ha
15|sa
14|uc
15|ec
16|q
16|x
16|z
15|ic
16|q
16|uc
17|q
17|x
17|z
16|x
16|z
15|q
15|x
15|z
14|vc
15|q
15|x
15|z
14|wa
14|xa
14|ya
14|za
4|ut_component-001
19|2
19|3
19|4
19|5
19|6
19|7
19|8
19|9
18|10
19|1
19|2
19|3
19|4
19|5
19|6
19|7
19|8
19|9
18|20
19|1
19|2
19|3
19|4
19|5
19|6
19|7
19|8
19|9
18|30
19|1
19|2
19|3
19|4
19|5
19|6
19|7
19|8
19|9
18|40
19|1
19|2
19|3
19|4
19|5
19|6
19|7
19|8
19|9
18|50
19|1
19|2
19|3
19|4
19|5
19|6
19|7
19|8
19|9
18|60
19|1
19|2
19|3
19|4
19|5
19|6
19|7
19|8
19|9
18|70
19|1
19|2
19|3
19|4
19|5
19|6
19|7
19|8
19|9
18|80
19|1
19|2
19|3
19|4
19|5
19|6
19|7
19|8
19|9
18|90
19|1
19|2
19|3
19|4
19|5
19|6
19|7
19|8
19|9
17|100
19|1
19|2
19|3
19|4
19|5
19|6
19|7
19|8
19|9
18|10
19|1
19|2
19|3
19|4
19|5
19|6
19|7
19|8
19|9
18|20
19|1
19|2
19|3
19|4
19|5
19|6
19|7
19|8
19|9
18|30
19|1
19|2
19|3
19|4
19|5
19|6
19|7
19|8
19|9
18|40
19|1
19|2
19|3
19|4
19|5
19|6
19|7
19|8
19|9
18|50
19|1
19|2
19|3
19|4
19|5
19|6
19|7
19|8
19|9
18|60
19|1
19|2
19|3
19|4
19|5
19|6
19|7
19|8
19|9
18|70
19|1
19|2
19|3
19|4
19|5
19|6
19|7
19|8
19|9
18|80
19|1
19|2
19|3
19|4
19|5
19|6
19|7
19|8
19|9
18|90
19|1
19|2
19|3
19|4
19|5
19|6
19|7
19|8
19|9
17|200
19|1
19|2
19|3
19|4
19|5
19|6
19|7
19|8
19|9
18|10
19|1
19|2
19|3
19|4
19|5
19|6
19|7
19|8
19|9
18|20
19|1
19|2
19|3
19|4
19|5
19|6
19|7
19|8
19|9
18|30
19|1
19|2
19|3
19|4
19|5
19|6
19|7
19|8
19|9
18|40
19|1
19|2
19|3
19|4
19|5
19|6
19|7
19|8
19|9
18|50
19|1
19|2
19|3
19|4
19|5
19|6
19|7
19|8
19|9
18|60
19|1
19|2
19|3
19|4
19|5
19|6
19|7
19|8
19|9
18|70
19|1
19|2
19|3
19|4
19|5
19|6
19|7
19|8
19|9
18|80
19|1
19|2
19|3
19|4
19|5
19|6
19|7
19|8
19|9
18|90
19|1
19|2
19|3
19|4
19|5
19|6
19|7
19|8
19|9
17|300
19|1
19|2
19|3
19|4
19|5
19|6
19|7
19|8
19|9
18|10
19|1
19|2
19|3
19|4
19|5
19|6
19|7
19|8
19|9
18|20
19|1
19|2
19|3
19|4
19|5
19|6
19|7
19|8
19|9
18|30
19|1
19|2
19|3
19|4
19|5
19|6
19|7
19|8
19|9
18|40
19|1
19|2
19|3
19|4
19|5
19|6
19|7
19|8
19|9
18|50
19|1
19|2
19|3
19|4
19|5
19|6
19|7
19|8
19|9
18|60
19|1
19|2
19|3
19|4
19|5
19|6
19|7
19|8
19|9
18|70
19|1
19|2
19|3
19|4
19|5
19|6
19|7
19|8
19|9
18|80
19|1
19|2
19|3
19|4
19|5
19|6
19|7
19|8
19|9
18|90
19|1
19|2
19|3
19|4
19|5
19|6
19|7
19|8
19|9
17|400
19|1
19|2
19|3
19|4
19|5
19|6
19|7
19|8
19|9
18|10
19|1
19|2
19|3
19|4
19|5
19|6
19|7
19|8
19|9
18|20
19|1
19|2
19|3
19|4
19|5
19|6
19|7
19|8
19|9
18|30
19|1
19|2
19|3
19|4
19|5
19|6
19|7
19|8
19|9
18|40
19|1
19|2
19|3
19|4
19|5
19|6
19|7
19|8
19|9
18|50
19|1
19|2
19|3
19|4
19|5
19|6
19|7
19|8
19|9
18|60
19|1
19|2
19|3
19|4
19|5
19|6
19|7
19|8
19|9
18|70
19|1
19|2
19|3
19|4
19|5
19|6
19|7
19|8
19|9
18|80
19|1
19|2
19|3
19|4
19|5
19|6
19|7
19|8
19|9
18|90
19|1
19|2
19|3
19|4
19|5
19|6
19|7
19|8
19|9
17|500
19|1
19|2
19|3
19|4
19|5
19|6
19|7
19|8
19|9
18|10
19|1
19|2
19|3
19|4
19|5
19|6
19|7
19|8
19|9
18|20
19|1
19|2
19|3
19|4
19|5
19|6
19|7
19|8
19|9
18|30
19|1
19|2
19|3
19|4
19|5
19|6
19|7
19|8
19|9
18|40
19|1
19|2
19|3
19|4
19|5
19|6
19|7
19|8
19|9
18|50
19|1
19|2
19|3
19|4
19|5
19|6
19|7
19|8
19|9
18|60
19|1
19|2
19|3
19|4
19|5
19|6
19|7
19|8
19|9
18|70
19|1
19|2
19|3
19|4
19|5
19|6
19|7
19|8
19|9
18|80
19|1
19|2
19|3
19|4
19|5
19|6
19|7
19|8
19|9
18|90
19|1
19|2
19|3
19|4
19|5
19|6
19|7
19|8
19|9
17|600
19|1
19|2
19|3
19|4
19|5
19|6
19|7
19|8
19|9
18|10
19|1
19|2
19|3
19|4
19|5
19|6
19|7
19|8
19|9
18|20
19|1
19|2
19|3
19|4
19|5
19|6
19|7
19|8
19|9
18|30
19|1
19|2
19|3
19|4
19|5
19|6
19|7
19|8
19|9
18|40
19|1
19|2
19|3
19|4
19|5
19|6
19|7
19|8
19|9
18|50
19|1
19|2
19|3
19|4
19|5
19|6
19|7
19|8
19|9
18|60
19|1
19|2
19|3
19|4
19|5
19|6
19|7
19|8
19|9
18|70
19|1
19|2
19|3
19|4
19|5
19|6
19|7
19|8
19|9
18|80
19|1
19|2
19|3
19|4
19|5
19|6
19|7
19|8
19|9
18|90
19|1
19|2
19|3
19|4
19|5
19|6
19|7
19|8
19|9
17|700
19|1
19|2
19|3
19|4
19|5
19|6
19|7
19|8
19|9
18|10
19|1
19|2
19|3
19|4
19|5
19|6
19|7
19|8
19|9
18|20
19|1
19|2
19|3
19|4
19|5
19|6
19|7
19|8
19|9
18|30
19|1
19|2
19|3
19|4
19|5
19|6
19|7
19|8
19|9
18|40
19|1
19|2
19|3
19|4
19|5
19|6
19|7
19|8
19|9
18|50
19|1
19|2
19|3
19|4
19|5
19|6
19|7
19|8
19|9
18|60
19|1
19|2
19|3
19|4
19|5
19|6
19|7
19|8
7|iteration_mark
2|pe_cartridge
5|drive
2|urus
2|xi
1|eacup_without_handle
3|pot
3|r-off_calendar
4|drop-barbed_rightwards_arrow
9|spoked_asterisk
2|ddy_bear
2|lephone_location_sign
10|on_top_of_modem
10|receiver
18|_with_page
13|order
10|sign
4|scope
4|vision
3|ugu_ai_length_mark
7|digit_eight
13|five
14|our
13|nine
13|one
13|seven
14|ix
13|three
14|wo
13|zero
7|fraction_digit_one_for_even_powers_of_four
30|odd_powers_of_four
22|three_for_even_powers_of_four
32|odd_powers_of_four
23|wo_for_even_powers_of_four
30|odd_powers_of_four
22|zero_for_odd_powers_of_four
7|length_mark
9|tter_a
15|a
15|i
15|u
14|ba
15|ha
14|ca
15|ha
14|da
15|da
16|ha
15|ha
15|za
14|e
15|e
14|ga
15|ha
14|ha
14|i
15|i
14|ja
15|ha
14|ka
15|ha
14|la
15|la
16|la
14|ma
14|na
16|kaara_pollu
15|ga
15|na
15|ya
14|o
15|o
14|pa
15|ha
14|ra
15|ra
16|ra
14|sa
15|ha
15|sa
14|ta
15|ha
15|sa
15|ta
16|ha
14|u
15|u
14|va
15|ocalic_l
23|l
22|r
23|r
14|ya
7|sign_anusvara
13|vagraha
12|candrabindu
13|ombining_anusvara_above
22|candrabindu_above
12|nukta
12|siddham
12|tuumu
12|virama
14|sarga
7|vowel_sign_aa
19|i
19|u
18|e
19|e
18|i
19|i
18|o
19|o
18|u
19|u
18|vocalic_l
27|l
26|r
27|r
2|nge_sign
3|nis_racquet_and_ball
3|t
2|st_tube
2|tragram_for_accumulation
15|dvance
15|ggravation
15|scent
14|barrier
15|old_resolution
15|ranching_out
14|centre
15|hange
15|losed_mouth
19|ness
18|ure
15|ompletion
19|iance
16|nstancy
17|tact
18|ention
18|rariety
14|darkening
15|ecisiveness
16|fectiveness_or_distortion
16|parture
15|ifficulties
16|minishment
17|ming
16|vergence
15|oubt
15|uties
14|ease
15|mbellishment
15|ncounters
16|deavour
16|largement
15|ternity
15|xhaustion
14|failure
15|light
15|ollowing
16|stering
15|ull_circle
18|ness
14|gathering
23|_in
15|oing_to_meet
15|reatness
15|uardedness
14|hardness
15|olding_back
14|increase
16|ner
14|joy
14|keeping_small
15|inship
14|labouring
16|w_or_model
15|egion
14|massing
15|easure
15|ired
14|on_the_verge
15|pposition
14|packing
16|ttern
15|enetration
15|urity
14|reach
16|lease
16|sidence
18|stance
17|ponse
15|itual
14|severance
15|inking
15|toppage
17|ve
16|rength
14|unity
14|vastness_or_wasting
14|waiting
16|tch
14|youthfulness
1|haana_aabaafili
8|bafili
7|ebefili
8|ebeefili
8|ybeyfili
7|ibifili
7|letter_ainu
15|lifu
14|baa
14|chaviyani
14|daadhu
16|viyani
15|haalu
14|faafu
14|gaafu
15|hainu
15|naviyani
14|haa
15|haa
14|javiyani
14|kaafu
15|haa
14|laamu
15|haviyani
14|meemu
14|naa
15|oonu
14|paviyani
14|qaafu
14|raa
14|saadhu
15|eenu
15|haviyani
16|eenu
14|taviyani
15|haa
18|lu
15|o
15|taa
14|vaavu
14|waavu
14|yaa
14|zaa
16|viyani
15|o
7|oaboafili
8|bofili
8|oboofili
7|sukun
7|ubufili
3|i_character_angkhankhu
15|bo_baimai
15|cho_chan
23|g
21|ing
21|oe
15|do_chada
18|dek
15|fo_fa
20|n
17|ngman
15|ho_hip
18|nokhuk
15|kho_khai
21|on
21|uat
21|wai
19|rakhang
18|mut
16|o_kai
15|lakkhangyao
16|o_chula
18|ling
16|u
15|mai_chattawa
19|ek
19|han-akat
19|tho
20|ri
18|taikhu
18|yamok
16|o_ma
15|ngo_ngu
16|ikhahit
16|o_nen
19|u
15|o_ang
15|paiyannoi
16|hinthu
17|o_phan
21|ung
19|samphao
16|o_pla
15|ro_rua
16|u
15|sara_a
21|a
21|e
21|i_maimalai
27|uan
21|m
20|e
20|i
21|i
20|o
20|u
21|e
22|e
21|u
16|o_rusi
18|sala
19|o
19|ua
15|thanthakhat
17|o_nangmontho
19|phuthao
19|thahan
22|n
21|ong
21|ung
16|o_patak
18|tao
15|wo_waen
15|yamakkan
16|o_yak
19|ing
6|urrency_symbol_baht
5|digit_eight
11|five
12|our
11|nine
11|one
11|seven
12|ix
11|three
12|wo
11|zero
2|ere_does_not_exist
6|exists
5|fore
4|modynamic
6|meter
2|in_greek_cross
5|saltire
6|pace
4|king_face
3|rd_place_medal
2|ong_sandal
3|ught_balloon
2|ree-d_bottom-lighted_rightwards_arrowhead
8|left-lighted_downwards_equilateral_arrowhead
8|right-lighted_upwards_equilateral_arrowhead
8|top-lighted_leftwards_equilateral_arrowhead
20|rightwards_arrowhead
31|equilateral_arrowhead
6|em_dash
6|per-em_space
5|_button_mouse
6|consecutive_equals_signs
6|dimensional_angle
7|ot_punctuation
6|leftwards_arrows
7|ines_converging_left
23|right
6|networked_computers
6|pointed_black_star
6|rays_above
11|below
11|left
11|right
7|ightwards_arrows
6|speech_bubbles
2|umbs_down_sign
7|up_sign
3|nder_cloud_and_rain
7|storm
1|ibetan_astrological_sign_-khyud_pa
26|sdong_tshugs
27|gra_gcan_-char_rtags
8|cantillation_sign_cang_te-u
26|heavy_beat
26|light_beat
26|sbub_-chal
8|digit_eight
14|five
15|our
14|half_eight
19|five
20|our
19|nine
19|one
19|seven
20|ix
19|three
20|wo
19|zero
14|nine
14|one
14|seven
15|ix
14|three
15|wo
14|zero
8|ku_ru_kha
17|_bzhi_mig_can
8|letter_-a
15|a
15|ba
16|ha
15|ca
16|ha
15|da
16|da
17|ha
16|ha
16|za
17|ha
15|fixed-form_ra
15|ga
16|ha
15|ha
15|ja
15|ka
16|ha
16|ka
16|ssa
15|la
15|ma
15|na
16|ga
16|na
16|ya
15|pa
16|ha
15|ra
16|ra
15|sa
16|ha
16|sa
15|ta
16|ha
16|sa
17|ha
16|ta
17|ha
15|wa
15|ya
15|za
16|ha
9|ogotype_sign_chad_rtags
22|lhag_rtags
8|mark_ang_khang_gyas
25|on
13|bka-_shog_gi_mgo_rgyan
23|yig_mgo
14|sdus_rtags
15|ka-_shog_gi_mgo_rgyan
16|ur_yig_mgo
13|caret_-dzud_rtags_bzhi_mig_can
31|me_long_can
19|yig_mgo_phur_shad_ma
14|he_mgo
14|losing_brda_rnying_yig_mgo_sgab_ma
21|yig_mgo_sgab_ma
13|delimiter_tsheg_bstar
13|gter_tsheg
18|yig_mgo_-um_gter_tsheg_ma
30|rnam_bcad_ma
26|truncated_a
14|ug_rtags_gyas
25|on
13|halanta
13|initial_brda_rnying_yig_mgo_mdun_ma
21|yig_mgo_mdun_ma
15|tersyllabic_tsheg
13|leading_mchan_rtags
13|mnyam_yig_gi_mgo_rgyan
13|ngas_bzung_nyi_zla
24|sgor_rtags
14|yis_shad
18|tsheg
23|_shad
13|paluta
13|rgya_gram_shad
14|in_chen_spungs_shad
13|sbrul_shad
14|had
13|trailing_mchan_rtags
14|sa_-phru
15|heg_shad
13|yig_mgo_tsheg_shad_ma
8|sign_gru_can_rgyings
17|med_rgyings
13|inverted_mchu_can
13|lce_tsa_can
15|i_rtags
13|mar_tshes
14|chu_can
13|nyi_zla_naa_da
13|rdel_dkar_gcig
24|nyis
24|sum
23|rdel_nag
18|nag_gcig
23|nyis
23|sum
22|rdel_dkar
14|jes_su_nga_ro
14|nam_bcad
13|sna_ldan
13|yang_rtags
15|r_tshes
9|ubjoined_letter_-a
25|a
25|ba
26|ha
25|ca
26|ha
25|da
26|da
27|ha
26|ha
26|za
27|ha
25|fixed-form_ra
36|wa
36|ya
25|ga
26|ha
25|ha
25|ja
25|ka
26|ha
26|ssa
25|la
25|ma
25|na
26|ga
26|na
26|ya
25|pa
26|ha
25|ra
25|sa
26|ha
26|sa
25|ta
26|ha
26|sa
27|ha
26|ta
27|ha
25|wa
25|ya
25|za
26|ha
18|sign_inverted_mchu_can
23|lce_tsa_can
23|mchu_can
9|yllable_om
10|mbol_dril_bu
15|nor_bu
21|_bzhi_-khyil
22|gsum_-khyil
22|nyis_-khyil
15|padma_gdan
16|hur_pa
15|rdo_rje
22|_rgya_gram
8|vowel_sign_aa
19|e
20|e
19|i
20|i
19|o
20|o
19|reversed_i
29|i
19|u
20|u
19|vocalic_l
28|l
27|r
28|r
2|cket
2|e_over_infinity
2|finagh_consonant_joiner
9|letter_ahaggar_yazh
17|yer_yagh
16|berber_academy_yah
33|j
16|tawellemet_yaz
17|uareg_yagh
26|n
25|h
25|k
26|h
25|ng
25|q
25|zh
16|ya
18|a
18|b
19|h
18|ch
18|d
19|d
20|h
19|h
18|f
18|g
19|h
20|h
18|h
19|h
18|j
18|k
19|h
20|h
18|l
18|m
18|n
18|p
18|q
18|r
19|r
18|s
19|h
19|s
18|t
19|h
19|t
18|v
18|w
18|y
18|z
19|h
19|z
17|e
18|y
17|i
17|o
17|u
9|modifier_letter_labialization_mark
9|separator_mark
2|ger
5|_face
3|ht_trifoliate_snowflake
2|lde
5|_operator
14|_above_leftwards_arrow
21|rightwards_arrow
15|with_dot_above
20|rising_dots
6|with_dot_above
15|below
11|ring_above
2|mer_clock
4|s_with_left_half_black
11|right_half_black
2|ny
4|_two_dots_over_one_dot_punctuation
2|red_face
3|huta_abbreviation_sign
9|nji
8|digit_eight
14|five
15|our
14|nine
14|one
14|seven
15|ix
14|three
15|wo
14|zero
8|gvang
8|letter_a
16|a
16|i
16|u
15|ba
16|ha
15|ca
16|ha
15|da
16|da
17|ha
16|ha
15|e
15|ga
16|ha
15|ha
15|i
16|i
15|ja
16|ha
15|ka
16|ha
15|la
15|ma
15|na
16|ga
16|na
16|ya
15|o
15|pa
16|ha
15|ra
15|sa
16|ha
16|sa
15|ta
16|ha
16|ta
17|ha
15|u
16|u
15|va
16|ocalic_l
24|l
23|r
24|r
15|ya
8|om
8|sign_anusvara
14|vagraha
13|candrabindu
13|nukta
13|virama
15|sarga
8|vowel_sign_aa
20|i
20|u
19|e
19|i
20|i
19|o
19|short_e
25|o
19|u
20|u
19|vocalic_l
28|l
27|r
28|r
3|onian_sign_capital_et
14|et
1|oilet
2|kyo_tower
2|mato
2|ngue
2|olbox
3|th
5|brush
2|p_arc_anticlockwise_arrow
27|_with_plus
8|clockwise_arrow_with_minus
4|curly_bracket
4|half_black_circle
9|integral
9|left_parenthesis
9|right_parenthesis
9|section_sign
6|t
4|left_corner
10|rop
9|half_bracket
4|parenthesis
4|right_corner
11|rop
10|half_bracket
4|square_bracket
4|tortoise_shell_bracket
4|with_upwards_arrow_above
2|rtoise_shell_bracketed_cjk_unified_ideograph-4e09
49|8c
47|52dd
48|b89
47|6253
48|557
48|72c
47|70b9
48|6d7
25|latin_capital_letter_s
2|tal_runout
3|o_letter_a
13|e
12|ba
13|reathy_ae
20|e
21|o
20|i
21|u
12|cha
12|da
12|e
13|o
12|ga
12|ha
12|i
13|u
12|ja
12|ka
12|la
12|ma
12|na
13|ga
12|o
12|pa
12|ra
12|sa
12|ta
12|u
12|wa
12|ya
5|sign_rising_tone
1|rackball
4|tor
3|de_mark_sign
3|in
3|m
4|_car
3|nspluto
5|versal_intersection
2|iangle-headed_rightwards_arrow
8|_with_dot_above
14|rounded_corners
14|serifs_at_bottom
14|underbar
6|ular_bullet
11|flag_on_post
11|ruler
3|colon
3|dent_emblem
3|gram_for_earth
12|fire
12|heaven
12|lake
12|mountain
12|thunder
12|water
13|ind
3|ple_colon_operator
7|dagger
7|horizontal_bar_with_double_vertical_stroke
27|triple_vertical_stroke
7|integral
7|nested_greater-than
14|less-than
7|plus
8|rime
7|solidus_binary_relation
7|tilde
7|vertical_bar_binary_relation
20|delimiter
20|right_turnstile
20|with_horizontal_stroke
2|oll
5|eybus
3|phy
4|ical_drink
9|fish
2|ue
4|_light_moon_arta
3|mpet
1|ugrik_sign
2|lip
2|mbler_glass
2|rkey
4|ish_lira_sign
3|ned_ampersand
8|ngle
7|black_pentagon
13|shogi_piece
7|capital_f
8|omma
7|dagger
8|igit_three
14|wo
7|greek_small_letter_iota
7|north_east_pointing_leaf
13|west_pointing_leaf
9|t_sign
7|ok_hand_sign
7|sans-serif_capital_g
26|l
26|y
8|emicolon
8|mall_f
8|outh_east_pointing_leaf
13|west_pointing_leaf
7|white_shogi_piece
3|tle
1|welve_pointed_black_star
2|isted_rightwards_arrows
2|o-em_dash
3|_asterisks_aligned_vertically
4|button_mouse
4|consecutive_equals_signs
4|dot_leader
8|punctuation
7|s_over_one_dot_punctuation
4|hearts
4|intersecting_logical_and
25|or
4|joined_squares
4|logical_and_operator
12|or_operator
4|men_holding_hands
4|speech_bubbles
4|women_holding_hands
0|ugaritic_letter_ain
17|lpa
16|beta
16|delta
17|hal
16|gamla
17|hain
16|ho
18|ta
16|i
16|kaf
17|ha
16|lamda
16|mem
16|nun
16|pu
16|qopa
16|rasha
16|sade
18|mka
17|hin
17|su
16|tet
17|hanna
17|o
16|u
16|wo
16|yod
16|zeta
17|u
9|word_divider
1|mbrella
8|_on_ground
9|with_rain_drops
1|namused_face
2|certainty_sign
2|dertie
3|o_symbol
2|icorn_face
3|on
5|_above_bar_above_intersection
12|intersection
6|beside_and_joined_with_union
6|with_logical_or
11|minus_sign
11|overbar
3|t_separator
4|ed_symbol
3|versal_recycling_symbol
2|married_partnership_symbol
1|p-pointing_airplane
12|military_airplane
12|red_triangle
12|small_airplane
18|red_triangle
12|triangle_with_left_half_black
26|right_half_black
2|_arrow_through_circle
8|head
12|_between_two_horizontal_bars
13|in_a_rectangle_box
3|barb_left_down_barb_left_harpoon
23|right_harpoon
8|right_down_barb_left_harpoon
24|right_harpoon
3|down_arrow
13|_with_base
8|black_arrow
8|double_arrow
8|sans-serif_arrow
8|triangle-headed_arrow
8|white_arrow
3|fish_tail
3|right_diagonal_ellipsis
3|tack
7|_with_circle_above
2|per_and_left_and_lower_triangular_three_quarters_block
11|ower_one_eighth_block
16|triangular_half_block
10|right_and_lower_triangular_three_quarters_block
6|blade_scissors
6|five_eighths_block
6|half_block
16|_and_lower_half_inverse_medium_shade
11|circle
11|inverse_medium_shade_and_lower_half_block
19|white_circle
11|medium_shade
6|left_block_diagonal_lower_centre_to_lower_middle_right
42|upper_middle_right
48|right
32|left_to_lower_middle_right
40|upper_centre
46|middle_right
32|middle_left_to_upper_centre
53|middle_right
53|right
26|upper_middle_left_to_upper_centre
53|right
11|corner_with_dot
11|or_lower_right_curly_bracket_section
11|quadrant_circular_arc
11|to_lower_right_fill
12|riangle
17|ular_medium_shade
6|one_eighth_block
10|quarter_block
6|right_block_diagonal_lower_middle_left_to_lower_centre
54|right
27|upper_centre_to_lower_middle_right
49|right
43|upper_middle_right
33|left_to_lower_centre
47|middle_right
41|upper_middle_right
33|middle_left_to_lower_centre
54|middle_right
54|right
12|drop-shadowed_white_square
12|or_lower_left_curly_bracket_section
12|pencil
12|quadrant_circular_arc
12|shadowed_white_circle
27|square
12|to_lower_left_fill
13|riangle
18|ular_medium_shade
6|seven_eighths_block
6|three_eighths_block
12|quarters_block
7|riangular_one_quarter_block
2|side-down_face
2|wards_ancora
9|rrow
13|_and_right_one_eighth_block
14|from_bar
14|leftwards_of_downwards_arrow
14|to_bar
14|with_double_stroke
19|equilateral_arrowhead
19|horizontal_stroke
19|large_triangle_arrowhead
19|medium_triangle_arrowhead
19|notched_tail
19|small_equilateral_arrowhead
25|triangle_arrowhead
19|tip_leftwards
23|rightwards
8|black_arrow
14|circled_white_arrow
8|compressed_arrow
8|dashed_arrow
9|ouble_arrow
8|finger-post_arrow
8|harpoon_with_barb_left_beside_downwards_harpoon_with_barb_right
38|upwards_harpoon_with_barb_right
31|from_bar
31|to_bar
30|wards
26|right_from_bar
32|to_bar
31|wards
9|eavy_arrow
14|compressed_arrow
8|paired_arrows
8|quadruple_arrow
8|rocket
8|sans-serif_arrow
9|quared_arrow
8|triangle-headed_arrow
29|_leftwards_of_downwards_triangle-headed_arrow
30|to_bar
30|with_bold_shaft
35|double_horizontal_stroke
35|heavy_shaft
35|long_tip_leftwards
44|rightwards
35|medium_shaft
35|narrow_shaft
35|very_heavy_shaft
24|dashed_arrow
24|paired_arrows
16|_arrowhead
11|ple_arrow
9|wo-headed_arrow_from_small_circle
25|with_triangle_arrowheads
11|_headed_arrow
8|white_arrow
19|_from_bar
28|_with_horizontal_bar
20|on_pedestal
31|_with_horizontal_bar
37|vertical_bar
20|within_triangle_arrowhead
14|double_arrow
26|_on_pedestal
1|ranus
1|s
0|vai_comma
4|digit_eight
10|five
11|our
10|nine
10|one
10|seven
11|ix
10|three
11|wo
10|zero
4|full_stop
4|question_mark
4|syllable_a
14|n
13|ba
14|e
15|e
14|ha
15|e
16|e
15|i
15|o
16|o
15|u
14|i
14|o
15|o
14|u
13|ca
14|e
15|e
14|i
14|o
15|o
14|u
13|da
14|e
15|e
14|ha
15|e
16|e
15|ha
16|e
17|e
16|i
16|o
17|o
16|u
15|i
15|o
16|o
15|u
14|i
14|o
15|o
14|u
13|e
14|e
15|n
14|n
13|fa
14|e
15|e
14|i
14|o
15|o
14|u
13|ga
14|ba
15|e
16|e
16|n
15|i
15|o
16|n
16|o
15|u
14|e
15|e
15|n
14|i
14|o
15|o
14|u
13|ha
15|n
14|e
15|e
15|n
14|i
15|n
14|o
15|n
15|o
14|u
15|n
13|i
14|n
13|ja
14|e
15|e
14|i
14|o
15|o
14|u
13|ka
15|n
14|e
15|e
14|i
14|o
15|o
14|pa
16|n
15|e
16|e
16|n
15|i
15|o
16|o
15|u
14|u
13|la
14|e
15|e
15|ngthener
14|i
14|o
15|o
14|u
13|ma
14|ba
15|e
16|e
15|i
15|o
16|o
15|u
14|e
15|e
14|gba
16|e
17|e
16|i
16|o
17|o
16|u
14|i
14|o
15|o
14|u
13|na
14|da
15|e
16|e
15|i
15|o
16|le_do
19|fa
19|ka
19|ma
19|soo
16|o
15|u
14|e
15|e
14|g
15|an
15|en
15|ga
16|e
17|e
17|n
16|i
16|o
17|o
16|u
15|on
14|i
14|ja
15|e
16|e
15|i
15|o
16|o
15|u
14|o
15|o
14|u
14|ya
15|e
16|e
15|i
15|o
16|o
15|u
13|o
14|n
14|o
15|n
13|pa
14|e
15|e
14|i
14|o
15|o
14|u
13|ra
14|e
15|e
14|i
14|o
15|o
14|u
13|sa
14|e
15|e
14|ha
15|e
16|e
15|i
15|o
16|o
15|u
14|i
14|o
15|o
14|u
13|ta
14|e
15|e
14|ha
15|e
16|e
15|i
15|o
16|o
15|u
14|i
14|o
15|o
14|u
13|u
14|n
13|va
14|e
15|e
14|i
14|o
15|o
14|u
13|wa
15|n
14|e
15|e
16|n
15|n
14|i
15|n
14|o
15|n
15|o
16|n
14|u
15|n
13|ya
14|e
15|e
14|i
14|o
15|o
14|u
13|za
14|e
15|e
14|ha
15|e
16|e
15|i
15|o
16|o
15|u
14|i
14|o
15|o
14|u
6|mbol_bang
11|dang
12|o-o
13|ong
11|faa
12|eeng
11|jong
11|keeng
12|ung
11|nii
11|taa
12|ing
12|ong
2|mpire
2|riation_selector-1
20|0
21|0
21|1
21|2
21|3
21|4
21|5
21|6
21|7
21|8
21|9
20|1
21|0
21|1
21|2
21|3
21|4
21|5
21|6
21|7
21|8
21|9
20|2
21|0
21|1
21|2
21|3
21|4
21|5
21|6
21|7
21|8
21|9
20|3
21|0
21|1
21|2
21|3
21|4
21|5
21|6
21|7
21|8
21|9
20|4
21|0
21|1
21|2
21|3
21|4
21|5
21|6
21|7
21|8
21|9
20|5
21|0
21|1
21|2
21|3
21|4
21|5
21|6
21|7
21|8
21|9
20|6
21|0
21|1
21|2
21|3
21|4
21|5
21|6
21|7
21|8
21|9
20|7
21|0
21|1
21|2
21|3
21|4
21|5
21|6
21|7
21|8
21|9
20|8
21|0
21|1
21|2
21|3
21|4
21|5
21|6
21|7
21|8
21|9
20|9
21|0
21|1
21|2
21|3
21|4
21|5
21|6
21|7
21|8
21|9
19|2
20|0
21|0
21|1
21|2
21|3
21|4
21|5
21|6
21|7
21|8
21|9
20|1
21|0
21|1
21|2
21|3
21|4
21|5
21|6
21|7
21|8
21|9
20|2
21|0
21|1
21|2
21|3
21|4
21|5
21|6
21|7
21|8
21|9
20|3
21|0
21|1
21|2
21|3
21|4
21|5
21|6
21|7
21|8
21|9
20|4
21|0
21|1
21|2
21|3
21|4
21|5
21|6
21|7
21|8
21|9
20|5
21|0
21|1
21|2
21|3
21|4
21|5
21|6
20|6
20|7
20|8
20|9
19|3
20|0
20|1
20|2
20|3
20|4
20|5
20|6
20|7
20|8
20|9
19|4
20|0
20|1
20|2
20|3
20|4
20|5
20|6
20|7
20|8
20|9
19|5
20|0
20|1
20|2
20|3
20|4
20|5
20|6
20|7
20|8
20|9
19|6
20|0
20|1
20|2
20|3
20|4
20|5
20|6
20|7
20|8
20|9
19|7
20|0
20|1
20|2
20|3
20|4
20|5
20|6
20|7
20|8
20|9
19|8
20|0
20|1
20|2
20|3
20|4
20|5
20|6
20|7
20|8
20|9
19|9
20|0
20|1
20|2
20|3
20|4
20|5
20|6
20|7
20|8
20|9
1|ector_or_cross_product
2|dic_sign_anusvara_antargomukha
20|bahirgomukha
20|ubhayato_mukha
20|vamagomukha
31|_with_tail
12|rdhavisarga
12|tikrama
11|double_anusvara_antargomukha
11|hexiform_long_anusvara
11|jihvamuliya
11|long_anusvara
11|nihshvasa
11|reversed_visarga_anudatta
28|udatta
12|otated_ardhavisarga
12|thang_long_anusvara
11|tiryak
11|upadhmaniya
11|visarga_anudatta
27|_with_tail
19|svarita
19|udatta
25|_with_tail
11|yajurvedic_midline_svarita
6|tone_atharvavedic_independent_svarita
11|candra_above
18|below
11|dot_below
13|uble_ring_above
18|svarita
11|karshana
13|thaka_anudatta
11|prenkha
11|rigvedic_kashmiri_independent_svarita
13|ng_above
11|shara
11|three_dots_below
12|riple_svarita
12|wo_dots_below
11|yajurvedic_aggravated_independent_svarita
22|independent_svarita
22|kathaka_independent_svarita
49|_schroeder
2|rsicle
3|tical_bar_beside_right_triangle
13|double_left_turnstile
13|triple_right_turnstile
13|with_horizontal_stroke
9|ellipsis
9|four_dots
9|ideographic_iteration_mark
9|kana_repeat_mark
25|_lower_half
26|upper_half
21|with_voiced_sound_mark
43|_upper_half
9|line
13|_extension
14|with_circle_above
26|below
19|middle_dot
9|male_with_stroke_sign
9|one_eighth_block-2
26|3
26|4
26|5
26|6
26|7
9|six_dots
9|tab_key
12|ulation
19|_set
10|ilde
10|raffic_light
9|zigzag_line
3|y_bold_greek_cross
5|heavy_eight_pointed_black_star
17|spoked_asterisk
11|five_spoked_asterisk
11|greek_cross
11|reverse_solidus
11|saltire
12|ix_spoked_asterisk
12|olidus
11|white_circle
17|square
5|much_greater-than
10|less-than
2|sta
1|ibration_mode
2|ctory_hand
2|deo_camera
6|game
5|cassette
2|etnamese_alternate_reading_mark_ca
34|nhay
3|wdata_square
2|olin
2|rgo
2|thkuqi_capital_letter_a
24|bbe
25|e
24|ce
25|he
24|de
25|he
24|e
25|i
24|fe
24|ga
24|ha
25|ha
24|i
25|je
24|je
24|ka
24|la
25|la
24|me
24|ne
25|je
24|o
24|pe
24|qa
24|re
24|se
25|he
24|te
25|he
24|u
24|ve
24|xe
24|y
24|ze
9|small_letter_a
22|bbe
23|e
22|ce
23|he
22|de
23|he
22|e
23|i
22|fe
22|ga
22|ha
23|ha
22|i
23|je
22|je
22|ka
22|la
23|la
22|me
22|ne
23|je
22|o
22|pe
22|qa
22|re
22|se
23|he
22|te
23|he
22|u
22|ve
22|xe
22|y
22|ze
1|oided_greek_cross
2|lcano
3|leyball
3|ume_integral
1|s1
3|0
4|0
4|1
4|2
4|3
4|4
4|5
4|6
4|7
4|8
4|9
3|1
4|0
4|1
4|2
4|3
4|4
4|5
4|6
4|7
4|8
4|9
3|2
4|0
4|1
4|2
4|3
4|4
4|5
4|6
4|7
4|8
4|9
3|3
4|0
4|1
4|2
4|3
4|4
4|5
4|6
4|7
4|8
4|9
3|4
4|0
4|1
4|2
4|3
4|4
4|5
4|6
4|7
4|8
4|9
3|5
4|0
4|1
4|2
4|3
4|4
4|5
4|6
4|7
4|8
4|9
3|6
4|0
4|1
4|2
4|3
4|4
4|5
4|6
4|7
4|8
4|9
3|7
4|0
4|1
4|2
4|3
4|4
4|5
4|6
4|7
4|8
4|9
3|8
4|0
4|1
4|2
4|3
4|4
4|5
4|6
4|7
4|8
4|9
3|9
4|0
4|1
4|2
4|3
4|4
4|5
4|6
4|7
4|8
4|9
2|2
3|0
4|0
4|1
4|2
4|3
4|4
4|5
4|6
4|7
4|8
4|9
3|1
4|0
4|1
4|2
4|3
4|4
4|5
4|6
4|7
4|8
4|9
3|2
4|0
4|1
4|2
4|3
4|4
4|5
4|6
4|7
4|8
4|9
3|3
4|0
4|1
4|2
4|3
4|4
4|5
4|6
4|7
4|8
4|9
3|4
4|0
4|1
4|2
4|3
4|4
4|5
4|6
4|7
4|8
4|9
3|5
4|0
4|1
4|2
4|3
4|4
4|5
4|6
3|6
3|7
3|8
3|9
2|3
3|0
3|1
3|2
3|3
3|4
3|5
3|6
3|7
3|8
3|9
2|4
3|0
3|1
3|2
3|3
3|4
3|5
3|6
3|7
3|8
3|9
2|5
3|0
3|1
3|2
3|3
3|4
3|5
3|6
3|7
3|8
3|9
2|6
3|0
3|1
3|2
3|3
3|4
3|5
3|6
3|7
3|8
3|9
2|7
3|0
3|1
3|2
3|3
3|4
3|5
3|6
3|7
3|8
3|9
2|8
3|0
3|1
3|2
3|3
3|4
3|5
3|6
3|7
3|8
3|9
2|9
3|0
3|1
3|2
3|3
3|4
3|5
3|6
3|7
3|8
3|9
1|t
2|s
1|ulcanus
3|gar_fraction_five_eighths
21|sixths
17|our_fifths
16|one_eighth
20|fifth
20|half
20|ninth
20|quarter
20|seventh
21|ixth
20|tenth
21|hird
16|seven_eighths
16|three_eighths
22|fifths
22|quarters
17|wo_fifths
20|thirds
16|zero_thirds
0|waffle
2|ncho_digit_eight
13|five
14|our
13|nine
13|one
13|seven
14|ix
13|three
14|wo
13|zero
7|letter_a
15|a
16|n
17|g
15|ng
15|u
14|ba
14|ca
14|da
14|e
15|n
14|fa
14|ga
14|ha
14|i
15|ng
14|ja
14|ka
15|ha
14|la
15|lha
14|ma
14|na
15|ga
15|ya
14|o
15|n
16|g
14|pa
15|ha
14|ra
14|sa
15|ha
14|ta
15|ha
15|ra
15|sa
14|u
15|en
14|va
14|wa
14|ya
15|ih
14|za
7|ngun_sign
7|tone_koi
15|ni
12|tup
15|ni
3|ing_crescent_moon_symbol
7|gibbous_moon_symbol
2|rang_citi_capital_letter_a
28|m
28|ng
28|t
27|bu
27|da
27|e
28|nn
29|y
27|ga
27|har
28|iyo
28|olo
29|rr
27|ii
27|ko
27|ngaa
28|ung
27|o
28|dd
27|pu
27|sii
28|suu
27|tte
27|uc
28|u
27|viyo
27|wi
27|ya
28|o
28|u
29|j
12|digit_eight
18|five
19|our
18|nine
18|one
18|seven
19|ix
18|three
19|wo
18|zero
12|number_eighty
19|fifty
20|orty
19|ninety
19|seventy
20|ixty
19|ten
20|hirty
20|wenty
12|om
12|small_letter_a
26|m
26|ng
26|t
25|bu
25|da
25|e
26|nn
27|y
25|ga
25|har
26|iyo
26|olo
27|rr
25|ii
25|ko
25|ngaa
26|ung
25|o
26|dd
25|pu
25|sii
26|suu
25|tte
25|uc
26|u
25|viyo
25|wi
25|ya
26|o
26|u
27|j
3|ning_sign
2|stebasket
2|tch
3|er_buffalo
6|closet
6|polo
6|wave
5|melon
2|ve_arrow_pointing_directly_left
29|right
5|dash
3|ing_black_flag
7|hand_sign
7|white_flag
3|y_dash
5|line
6|ow_line
5|overline
2|xing_crescent_moon_symbol
7|gibbous_moon_symbol
1|eary_cat_face
6|face
2|dding
3|ge-tailed_rightwards_arrow
2|ierstrass_elliptic_function
3|ght_lifter
2|st_syriac_cross
1|hale
2|eel
5|_of_dharma
5|chair_symbol
2|ite-feathered_rightwards_arrow
5|_arrow_shaft_width_one
24|two_thirds
6|bullet
6|chess_bishop
18|_rotated_ninety_degrees
27|two_hundred_seventy_degrees
12|equihopper
22|_rotated_ninety_degrees
12|king
16|_rotated_ninety_degrees
25|two_hundred_seventy_degrees
13|night
18|-bishop
19|queen
19|rook
18|_rotated_forty-five_degrees
27|ninety_degrees
27|one_hundred_thirty-five_degrees
27|three_hundred_fifteen_degrees
28|wo_hundred_seventy_degrees
39|twenty-five_degrees
12|pawn
16|_rotated_ninety_degrees
25|two_hundred_seventy_degrees
12|queen
17|_rotated_ninety_degrees
26|two_hundred_seventy_degrees
12|rook
16|_rotated_ninety_degrees
25|two_hundred_seventy_degrees
12|turned_bishop
19|king
20|night
19|pawn
19|queen
19|rook
7|ircle
12|_containing_black_small_circle
13|with_dot_right
20|wn_arrow
18|lower_left_quadrant
24|right_quadrant
18|two_dots
18|upper_left_quadrant
24|right_quadrant
7|lub_suit
7|oncave-sided_diamond
27|_with_leftwards_tick
33|rightwards_tick
6|diamond
13|_containing_black_medium_diamond
31|small_diamond
31|very_small_diamond
14|in_square
14|suit
14|with_centred_dot
7|own-pointing_small_triangle
20|triangle
10|_pointing_backhand_index
20|index
20|left_hand_index
7|raughts_king
15|man
6|exclamation_mark_ornament
6|flag
10|_with_horizontal_middle_black_stripe
8|orette
9|wer
7|our_pointed_cusp
19|star
7|rowning_face
6|hard_shell_floppy_disk
7|eart
11|_suit
9|vy_check_mark
12|saltire_with_rounded_corners
8|xagon
7|orizontal_ellipse
8|urglass
6|large_square
8|tin_cross
7|eft-pointing_pointer
20|small_triangle
20|triangle
10|_lane_merge
11|pointing_backhand_index
20|index
7|ozenge_containing_black_small_lozenge
6|medium_diamond
13|lozenge
13|small_square
14|quare
14|tar
7|oon_selena
6|nib
6|parallelogram
7|ennant
9|tagon
6|question_mark_ornament
6|rectangle
7|ight-pointing_pentagon
22|ointer
21|small_triangle
21|triangle
11|_pointing_backhand_index
21|index
6|scissors
7|esame_dot
7|hogi_piece
7|mall_lozenge
12|square
13|tar
8|iling_face
7|pade_suit
7|quare
12|_button
13|containing_black_medium_square
30|small_square
30|very_small_square
13|with_centre_vertical_line
18|leftwards_tick
19|ower_left_quadrant
24|right_quadrant
18|rightwards_tick
19|ounded_corners
18|upper_left_quadrant
24|right_quadrant
18|vertical_bisecting_line
7|tar
7|un
9|_behind_cloud
22|_with_rain
10|with_rays
15|small_cloud
6|telephone
7|ouchtone_telephone
7|rapezium
8|iangle_containing_small_white_triangle
7|wo-way_left_way_traffic
6|up-pointing_chevron
18|small_triangle
18|triangle
26|_with_dot
8|_pointing_backhand_index
18|index
6|vertical_bar
15|ellipse
15|rectangle
9|y_small_square
1|ide-headed_downwards_barb_arrow
22|heavy_barb_arrow
22|light_barb_arrow
22|medium_barb_arrow
22|very_heavy_barb_arrow
12|leftwards_barb_arrow
22|heavy_barb_arrow
22|light_barb_arrow
22|medium_barb_arrow
22|very_heavy_barb_arrow
12|north_east_barb_arrow
23|heavy_barb_arrow
23|light_barb_arrow
23|medium_barb_arrow
23|very_heavy_barb_arrow
18|west_barb_arrow
23|heavy_barb_arrow
23|light_barb_arrow
23|medium_barb_arrow
23|very_heavy_barb_arrow
12|rightwards_barb_arrow
23|heavy_barb_arrow
23|light_barb_arrow
23|medium_barb_arrow
23|very_heavy_barb_arrow
12|south_east_barb_arrow
23|heavy_barb_arrow
23|light_barb_arrow
23|medium_barb_arrow
23|very_heavy_barb_arrow
18|west_barb_arrow
23|heavy_barb_arrow
23|light_barb_arrow
23|medium_barb_arrow
23|very_heavy_barb_arrow
12|upwards_barb_arrow
20|heavy_barb_arrow
20|light_barb_arrow
20|medium_barb_arrow
20|very_heavy_barb_arrow
2|ggly_vertical_line
2|lted_flower
2|nd_blowing_face
5|chime
4|ow
3|e_glass
3|king_face
2|red_keyboard
1|j
1|olf_face
2|man
5|_with_bunny_ears
5|s_boots
7|clothes
7|hat
7|sandal
3|ens_symbol
2|n_sign
2|od
2|rd_joiner
5|separator_middle_dot
3|ld_map
3|m
3|ried_face
1|rapped_present
2|eath_product
3|nch
3|stlers
2|iting_hand
0|x-ray
1|_in_a_rectangle_box
1|iangqi_black_cannon
15|hariot
14|elephant
14|general
14|horse
14|mandarin
14|soldier
8|red_cannon
13|hariot
12|elephant
12|general
12|horse
12|mandarin
12|soldier
1|or
0|yawning_face
1|ellow_heart
2|n_sign
2|zidi_combining_hamza_mark
17|madda_mark
7|hyphenation_mark
7|letter_be
14|chhim
16|im
15|im
14|dad
16|l
14|elif
15|t
15|w
15|yn
14|fa
14|gaf
14|hay
15|ha
14|ja
14|kaf
15|haf
14|lam
17|_with_dot_above
14|mim
14|nun
14|ow
14|pe
15|he
14|qaf
14|ra
15|ha
14|sad
15|e
15|hin
15|in
14|ta
15|he
14|um
14|va
16|_alternate_form
14|waw
14|xa
15|heyn
14|yot
17|_with_circumflex_above
14|za
16|l
15|e
1|i_radical_bbut
12|ur
11|che
12|ip
12|uop
12|y
13|p
13|t
11|ddur
12|u
11|ga
12|ep
12|gop
13|uo
12|ot
11|hmo
12|xit
13|op
13|uo
11|jjie
13|ut
13|y
12|o
11|ke
12|it
11|li
13|e
12|yr
11|mi
12|op
11|nbie
12|yip
13|op
12|zup
11|op
11|put
12|yt
11|qot
11|shat
13|op
13|ur
13|y
12|si
11|tat
12|u
11|vep
12|ur
11|wo
11|yit
12|o
11|za
12|ot
12|up
13|r
12|ziet
3|syllable_a
13|p
13|t
13|x
12|ba
14|p
14|t
14|x
13|ba
15|p
15|t
15|x
14|e
15|p
15|x
14|i
15|e
16|p
16|t
16|x
15|p
15|t
15|x
14|o
15|p
15|t
15|x
14|u
15|o
16|p
16|x
15|p
15|r
16|x
15|t
15|x
14|y
15|p
15|t
15|x
13|e
14|p
14|x
13|i
14|e
15|p
15|t
15|x
14|p
14|t
14|x
13|o
14|p
14|t
14|x
13|u
14|o
15|p
15|x
14|p
14|r
15|x
14|t
14|x
13|y
14|p
14|r
15|x
14|t
14|x
12|ca
14|p
14|t
14|x
13|e
14|p
14|x
13|ha
15|p
15|t
15|x
14|e
15|p
15|t
15|x
14|o
15|p
15|t
15|x
14|u
15|o
16|p
16|t
16|x
15|p
15|r
16|x
15|x
14|y
15|p
15|r
16|x
15|t
15|x
13|i
14|e
15|p
15|t
15|x
14|p
14|t
14|x
13|o
14|p
14|t
14|x
13|u
14|o
15|p
15|x
14|p
14|r
15|x
14|t
14|x
13|y
14|p
14|r
15|x
14|t
14|x
12|da
14|p
14|t
14|x
13|da
15|p
15|t
15|x
14|e
15|p
15|x
14|i
15|e
16|p
16|x
15|p
15|t
15|x
14|o
15|p
15|t
15|x
14|u
15|o
16|p
16|x
15|p
15|r
16|x
15|t
15|x
13|e
14|p
14|x
13|i
14|e
15|p
15|x
14|p
14|t
14|x
13|o
14|p
14|t
14|x
13|u
14|o
15|x
14|p
14|r
15|x
14|t
14|x
12|e
13|x
12|fa
14|p
14|t
14|x
13|i
14|p
14|t
14|x
13|o
14|p
14|x
13|u
14|p
14|r
15|x
14|t
14|x
13|y
14|p
14|t
14|x
12|ga
14|p
14|t
14|x
13|e
14|p
14|t
14|x
13|ga
15|p
15|t
15|x
14|e
15|p
15|t
15|x
14|i
15|e
16|p
16|x
15|t
15|x
14|o
15|p
15|t
15|x
14|u
15|o
16|p
16|t
16|x
15|p
15|r
16|x
15|t
15|x
13|i
14|e
15|p
15|t
15|x
14|p
14|t
14|x
13|o
14|p
14|t
14|x
13|u
14|o
15|p
15|t
15|x
14|p
14|r
15|x
14|t
14|x
12|ha
14|p
14|t
14|x
13|e
14|p
14|x
13|ie
15|x
14|t
13|la
15|p
15|t
15|x
14|e
15|p
15|x
14|i
15|e
16|p
16|x
15|p
15|t
15|x
14|o
15|p
15|x
14|u
15|o
16|p
16|x
15|p
15|r
16|x
15|t
15|x
14|y
15|p
15|r
16|x
15|t
15|x
13|ma
15|p
15|t
15|x
14|i
15|e
16|p
16|x
15|p
15|t
15|x
14|o
15|p
15|t
15|x
14|u
15|o
16|p
16|x
15|p
15|r
16|x
15|t
15|x
14|y
15|p
15|r
16|x
15|x
13|na
15|p
15|t
15|x
14|e
15|p
15|x
14|i
15|e
16|p
16|t
16|x
15|p
15|t
15|x
14|op
15|t
15|x
14|uo
16|x
15|t
13|o
14|p
14|t
14|x
13|uo
15|p
15|t
15|x
13|xa
15|p
15|t
15|x
14|e
15|p
15|x
14|i
15|e
16|p
16|t
16|x
15|p
15|t
15|x
14|o
15|p
15|t
15|x
14|uo
16|p
16|t
16|x
12|i
13|e
14|p
14|t
14|x
13|p
13|t
14|eration_mark
13|x
12|ji
14|e
15|p
15|t
15|x
14|p
14|t
14|x
13|ji
15|e
16|p
16|t
16|x
15|p
15|t
15|x
14|o
15|p
15|t
15|x
14|u
15|o
16|p
16|x
15|p
15|r
16|x
15|t
15|x
14|y
15|p
15|t
15|x
13|o
14|p
14|t
14|x
13|u
14|o
15|p
15|t
15|x
14|p
14|r
15|x
14|t
14|x
13|y
14|p
14|r
15|x
14|t
14|x
12|ka
14|p
14|t
14|x
13|e
14|p
14|t
14|x
13|i
14|e
15|p
15|x
14|p
14|t
14|x
13|o
14|p
14|t
14|x
13|u
14|o
15|p
15|x
14|p
14|r
15|x
14|t
14|x
12|la
14|p
14|t
14|x
13|e
14|p
14|x
13|i
14|e
15|p
15|t
15|x
14|p
14|t
14|x
13|o
14|p
14|t
14|x
13|u
14|o
15|p
15|t
15|x
14|p
14|r
15|x
14|t
14|x
13|y
14|p
14|r
15|x
14|t
14|x
12|ma
14|p
14|t
14|x
13|e
14|x
13|ga
15|p
15|t
15|x
14|e
15|p
15|x
14|ie
16|x
14|o
15|p
15|t
15|x
14|u
15|o
16|p
16|x
15|p
15|r
16|x
15|t
15|x
13|i
14|e
15|p
15|x
14|p
14|t
14|x
13|o
14|p
14|t
14|x
13|u
14|o
15|p
15|t
15|x
14|p
14|r
15|x
14|t
14|x
13|y
14|p
14|t
14|x
12|na
14|p
14|x
13|ba
15|p
15|t
15|x
14|i
15|e
16|p
16|x
15|p
15|t
15|x
14|o
15|p
15|t
15|x
14|u
15|p
15|r
16|x
15|t
15|x
14|y
15|p
15|r
16|x
15|t
15|x
13|da
15|p
15|t
15|x
14|e
15|p
15|x
14|i
15|e
16|x
15|p
15|t
15|x
14|o
15|p
15|t
15|x
14|u
15|p
15|r
16|x
15|t
15|x
13|e
14|p
14|x
13|ga
15|p
15|t
15|x
14|e
15|p
15|x
14|ie
16|p
16|x
14|o
15|p
15|t
15|x
14|uo
16|t
16|x
13|i
14|e
15|p
15|x
14|p
14|t
14|x
13|ji
15|e
16|p
16|t
16|x
15|p
15|t
15|x
14|o
15|p
15|t
15|x
14|u
15|o
16|x
15|p
15|r
16|x
15|x
14|y
15|p
15|r
16|x
15|t
15|x
13|o
14|p
14|t
14|x
13|ra
15|p
15|t
15|x
14|e
15|p
15|t
15|x
14|o
15|p
15|x
14|u
15|p
15|r
16|x
15|t
15|x
14|y
15|p
15|r
16|x
15|t
15|x
13|u
14|o
15|p
15|x
14|p
14|r
15|x
14|t
14|x
13|yi
15|e
16|p
16|t
16|x
15|p
15|t
15|x
14|o
15|p
15|t
15|x
14|u
15|o
16|p
16|x
15|p
15|t
15|x
13|za
15|p
15|t
15|x
14|e
15|x
14|i
15|e
16|p
16|x
15|p
15|t
15|x
14|op
15|x
14|u
15|o
16|x
15|p
15|r
16|x
15|x
14|y
15|p
15|r
16|x
15|t
15|x
12|o
13|p
13|t
13|x
12|pa
14|p
14|t
14|x
13|i
14|e
15|p
15|x
14|p
14|t
14|x
13|o
14|p
14|t
14|x
13|u
14|o
15|p
15|x
14|p
14|r
15|x
14|t
14|x
13|y
14|p
14|r
15|x
14|t
14|x
12|qi
14|e
15|p
15|t
15|x
14|p
14|t
14|x
13|o
14|p
14|t
14|x
13|u
14|o
15|p
15|t
15|x
14|p
14|r
15|x
14|t
14|x
13|y
14|p
14|r
15|x
14|t
14|x
12|ra
14|p
14|t
14|x
13|e
14|p
14|x
13|o
14|p
14|t
14|x
13|ra
15|x
14|e
15|p
15|t
15|x
14|o
15|p
15|t
15|x
14|u
15|o
16|x
15|p
15|r
16|x
15|t
15|x
14|y
15|p
15|r
16|x
15|t
15|x
13|u
14|o
15|p
15|x
14|p
14|r
15|x
14|t
14|x
13|y
14|p
14|r
15|x
14|t
14|x
12|sa
14|p
14|t
14|x
13|e
14|p
14|x
13|ha
15|p
15|t
15|x
14|e
15|p
15|t
15|x
14|o
15|p
15|t
15|x
14|u
15|o
16|p
16|x
15|p
15|r
16|x
15|t
15|x
14|y
15|p
15|r
16|x
15|t
15|x
13|i
14|e
15|p
15|x
14|p
14|t
14|x
13|o
14|p
14|t
14|x
13|sa
15|p
15|t
15|x
14|e
15|p
15|x
14|i
15|e
16|p
16|x
15|p
15|t
15|x
14|o
15|p
15|t
15|x
14|u
15|p
15|t
15|x
14|y
15|p
15|r
16|x
15|t
15|x
13|u
14|o
15|p
15|x
14|p
14|r
15|x
14|t
14|x
13|y
14|p
14|r
15|x
14|t
14|x
12|ta
14|p
14|t
14|x
13|e
14|p
14|x
13|i
14|e
15|p
15|x
14|p
14|t
14|x
13|o
14|p
14|t
14|x
13|u
14|o
15|p
15|t
15|x
14|p
14|r
15|x
14|t
14|x
12|uo
14|p
14|x
12|va
14|p
14|t
14|x
13|ep
14|x
13|i
14|e
15|p
15|t
15|x
14|p
14|t
14|x
13|o
14|p
14|t
14|x
13|u
14|p
14|r
15|x
14|t
14|x
13|y
14|p
14|r
15|x
14|t
14|x
12|wa
14|p
14|t
14|x
13|e
14|p
14|x
13|o
14|p
14|x
13|u
14|o
15|p
15|x
12|xi
14|e
15|p
15|t
15|x
14|p
14|t
14|x
13|o
14|p
14|t
14|x
13|uo
15|x
13|y
14|p
14|r
15|x
14|t
14|x
12|yi
14|e
15|p
15|t
15|x
14|p
14|t
14|x
13|o
14|p
14|t
14|x
13|u
14|o
15|p
15|t
15|x
14|p
14|r
15|x
14|t
14|x
13|y
14|p
14|r
15|x
14|t
14|x
12|za
14|p
14|t
14|x
13|e
14|p
14|x
13|ha
15|p
15|t
15|x
14|e
15|p
15|t
15|x
14|o
15|p
15|t
15|x
14|u
15|o
16|p
16|x
15|p
15|r
16|x
15|t
15|x
14|y
15|p
15|r
16|x
15|t
15|x
13|i
14|e
15|p
15|x
14|p
14|t
14|x
13|o
14|p
14|t
14|x
13|u
14|o
15|p
15|x
14|p
14|r
15|x
14|t
14|x
13|y
14|p
14|r
15|x
14|t
14|x
13|za
15|p
15|t
15|x
14|e
15|p
15|x
14|i
15|e
16|p
16|t
16|x
15|p
15|t
15|x
14|o
15|p
15|x
14|u
15|p
15|r
16|x
15|x
14|y
15|p
15|r
16|x
15|t
15|x
2|n_yang
1|o-yo
0|z_notation_bag_membership
11|domain_antirestriction
11|left_binding_bracket
16|image_bracket
11|range_antirestriction
12|elational_composition
12|ight_binding_bracket
17|image_bracket
11|schema_composition
18|piping
19|rojection
12|pot
11|type_colon
1|anabazar_square_closing_double-lined_head_mark
25|head_mark
19|uster-final_letter_la
38|ra
38|va
38|ya
25|initial_letter_ra
17|final_consonant_mark
17|initial_double-lined_head_mark
25|head_mark
17|letter_-a
24|a
24|ba
25|ha
24|ca
25|ha
24|da
25|da
26|ha
25|ha
25|za
26|ha
24|ga
25|ha
24|ha
24|ja
24|ka
25|ha
25|ssa
24|la
24|ma
24|na
25|ga
25|na
25|ya
24|pa
25|ha
24|ra
24|sa
25|ha
25|sa
24|ta
25|ha
25|sa
26|ha
25|ta
26|ha
24|va
24|ya
24|za
25|ha
17|mark_double_shad
22|long_tsheg
22|shad
22|tsheg
17|sign_anusvara
22|candra_with_ornament
28|bindu
33|_with_ornament
22|virama
24|sarga
18|ubjoiner
17|vowel_length_mark
23|sign_ai
29|u
28|e
28|i
28|o
29|e
28|reversed_i
28|u
29|e
1|ebra_face
2|ro_width_joiner
11|no-break_space
13|n-joiner
11|space
2|us
1|ipper-mouth_face
1|namenny_combining_attaching_vertical_omet
19|lower_tonal_range_indicator
19|mark_borzaya
24|chashka
31|_polnaya
25|urved_omet
24|demestvenny_zaderzhka
25|voetochie
24|gorazdo_nizko_on_left
41|right
38|s_kryzhem_on_left
51|right
32|vysoko
24|kachka
25|ryzh
29|_on_left
25|upnaya
24|lomka
24|malo_povyshe_on_left
40|right
37|s_khokhlom_on_left
51|right
40|ryzhem
38|tranno
24|nizko_on_left
33|right
30|s_kryzhem_on_left
43|right
24|oblachko
25|n
25|tsechka
24|podchashie
34|_with_vertical_stroke
27|vertka
26|vyshe_on_left
35|right
32|s_khokhlom_on_left
46|right
35|ryzhem
33|tranno
24|ravno
26|zseka
24|skoba
25|orochya_nozhka
25|redne_on_left
34|right
25|tranno_malo_povyshe
24|tikhaya
25|ochka
25|sata_on_left
33|right
30|s_kryzhem
24|udarka
24|vysoko_on_left
34|right
31|s_khokhlom_on_left
45|right
34|ryzhem
24|zaderzhka
25|elo
26|vok
19|tonal_range_mark_mrachno
36|svetlo
36|tresvetlo
9|neume_chashka
17|elyustka
15|demestvenny_klyuch
17|rbitsa
16|ouble_zapyataya
16|uda
16|va_v_chelnu
15|fita
15|golubchik_borzy
25|mrachny
25|svetly
25|tikhy
26|resvetly
15|khamilo
16|lyuch
16|obyla
16|ryuk
20|_tikhy
18|zh
16|ufisma
15|mechik
21|_klyuchenepostoyanny
29|povodny
29|voy
22|povodny
15|nemka
15|oblako
16|soka
20|_klyuchevaya_nepostoyannaya
33|svetlaya
22|ryukovaya_svetlaya
21|svetlaya
21|tresvetlaya
15|palka
17|raklit
17|uk
16|erevodka
24|_nepostoyannaya
16|odchashie
17|lkulizmy
15|reversed_chelyustka
16|og
15|skameytsa_dvoechelnaya_klyuchevaya
38|nepostoyannaya
38|prostaya
38|svetlaya
25|klyuchenepostoyannaya
32|vaya_svetlaya
37|tikhaya
25|mrachnaya
25|svetlaya
25|tikhaya
26|resvetlaya
16|lozhitie
24|_s_kryzhem
27|zapyatoy
25|zakrytoe
16|tatya
21|_nepostoyannaya
22|s_dvumya_zapyatymi
24|kryzhem
31|_i_zapyatoy
24|rogom
24|zapyatoy
32|_i_kryzhem
35|podchashiem
22|zakrytaya
31|_s_zapyatoy
17|opitsa
23|_s_ochkom
24|with_sorochya_nozhka
17|rela_dvoechelnaya
34|_klyuchevaya
31|okryzhevaya
32|povodnaya
41|_klyuchevaya
22|gromnaya
30|_with_single_zapyataya
26|okryzhevaya
37|_povodnaya
27|povodnaya
36|_with_double_zapyataya
42|single_zapyataya
22|klyuchenepostoyannaya
29|povodnaya
23|ryukovaya
32|_gromnaya
41|_with_single_zapyataya
37|okryzhevaya
48|_povodnaya
38|povodnaya
47|_with_double_zapyataya
53|single_zapyataya
33|povodnaya
33|tryaska
25|zhevaya
22|mrachnotikhaya
22|nepostoyannaya
22|polupovodnaya
24|vodnaya
23|rostaya
22|tikhaya_putnaya
23|ryasoglasnaya
28|povodnaya
28|strelnaya
15|vrakhiya_klyuchevaya_mrachnaya
36|prostaya
36|svetlaya
36|tresvetlaya
24|mrachnaya
24|prostaya
24|svetlaya
24|tresvetlaya
15|zanozhek
17|pyataya
16|meytsa
9|priznak_modifier_direction_flip
26|kryzh
26|level-2
32|3
26|rog
1|ombie
1|wj
2|nbsp
3|j
2|sp
"

/-- The code point ranges of the unified ideographs. -/
def unifiedIdeographs : List (Nat × Nat) :=
  [(0x3400, 0x4DBF), (0x4E00, 0x9FFF), (0x20000, 0x2A6DF), (0x2A700, 0x2B738),
   (0x2B740, 0x2B81D), (0x2B820, 0x2CEA1), (0x2CEB0, 0x2EBE0), (0x30000, 0x3134A)]

/-- The short names of the leading consonants of Hangul syllables; the silent one is empty. -/
def leadingJamo : List String :=
  ["G", "GG", "N", "D", "DD", "R", "M", "B", "BB", "S", "SS", "", "J", "JJ", "C", "K", "T",
   "P", "H"]

/-- The short names of the vowels of Hangul syllables. -/
def vowelJamo : List String :=
  ["A", "AE", "YA", "YAE", "EO", "E", "YEO", "YE", "O", "WA", "WAE", "OE", "YO", "U", "WEO",
   "WE", "WI", "YU", "EU", "YI", "I"]

/-- The short names of the trailing consonants of Hangul syllables; none is empty. -/
def trailingJamo : List String :=
  ["", "G", "GG", "GS", "N", "NJ", "NH", "D", "L", "LG", "LM", "LB", "LS", "LT", "LP", "LH",
   "M", "B", "BS", "S", "SS", "NG", "J", "C", "K", "T", "P", "H"]

/-- What follows the longest short name of `names` that starts `cs`, if one does. -/
def afterJamo (names : List String) (cs : List Char) : Option (List Char) :=
  let fits := (names.map String.toList).filter (·.isPrefixOf cs)
  match fits with
  | [] => none
  | n :: more => some (cs.drop (more.foldl (fun m f => max m f.length) n.length))

/-- Whether the text after `HANGUL SYLLABLE ` names a syllable: a leading consonant, a vowel
and a trailing consonant, each the longest that fits, and nothing after them. -/
def isSyllableName (cs : List Char) : Bool :=
  match afterJamo leadingJamo cs >>= afterJamo vowelJamo >>= afterJamo trailingJamo with
  | some [] => true
  | _ => false

/-- Whether the text after `CJK UNIFIED IDEOGRAPH-` names a unified ideograph: four or five
digits or capital letters from A to F, whose value lies in a range of unified ideographs. -/
def isIdeographName (cs : List Char) : Bool :=
  let hex := fun (c : Char) => if c ≤ '9' then c.toNat - 48 else c.toNat - 55
  let n := cs.foldl (fun acc c => acc * 16 + hex c) 0
  (cs.length == 4 || cs.length == 5) &&
    cs.all (fun c => ('0' ≤ c && c ≤ '9') || ('A' ≤ c && c ≤ 'F')) &&
    unifiedIdeographs.any fun (lo, hi) => lo ≤ n && n ≤ hi

/-- The names of a front-coded list, in order: each line gives how many characters the name
shares with the one before, a bar, and the rest of the name. -/
def decodeNames (text : String) : Array String :=
  let step := fun (acc : Array String × List Char) (line : String) =>
    match line.toList.span (· != '|') with
    | (digits, '|' :: suffix) =>
      let shared := digits.foldl (fun n d => n * 10 + (d.toNat - 48)) 0
      let name := acc.2.take shared ++ suffix
      (acc.1.push (String.ofList name), name)
    | _ => acc
  ((text.splitOn "\n").foldl step (#[], [])).1

/-- The names of `nameList`, sorted. -/
def listedNames : Array String := decodeNames nameList

/-- Whether `key` is among `names[lo:hi]`, for sorted `names`: the interval is halved at each
step, so `fuel` at least the length of the interval suffices. -/
def searchSorted (names : Array String) (key : String) : Nat → Nat → Nat → Bool
  | 0, _, _ => false
  | fuel + 1, lo, hi =>
    if lo < hi then
      let mid := (lo + hi) / 2
      let name := names.getD mid ""
      if name == key then true
      else if name < key then searchSorted names key fuel (mid + 1) hi
      else searchSorted names key fuel lo mid
    else false

/-- Whether a name is one of `nameList`, in any case of its ASCII letters. -/
def isListedName (name : List Char) : Bool :=
  let key := String.ofList (name.map fun c => if c == ' ' then '_' else c.toLower)
  name.all (fun c => c.toNat < 128 && c != '_') &&
    searchSorted listedNames key (listedNames.size + 1) 0 listedNames.size

/-- Whether a character name is known. The two families of built names are recognised by
their prefixes, in capital letters; any other name is looked up in `nameList`. -/
def isCharName (name : List Char) : Bool :=
  let hangul := "HANGUL SYLLABLE ".toList
  let ideograph := "CJK UNIFIED IDEOGRAPH-".toList
  if hangul.isPrefixOf name then isSyllableName (name.drop hangul.length)
  else if ideograph.isPrefixOf name then isIdeographName (name.drop ideograph.length)
  else isListedName name

end PineCheck.Text
