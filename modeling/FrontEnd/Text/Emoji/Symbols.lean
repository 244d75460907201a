/-!
# Names of symbols

Signs of the first plane with their names: digits in boxes, marks, arrows, the signs of weather,
games and the zodiac. Each line has the code points of a sign, and its names.
-/

namespace FrontEnd.Text.Emoji

/-- Symbols and their names. -/
def symbolLines : String := "
  23+20E3 keycap_number_sign
  23+FE0F+20E3 keycap_#
  2A+20E3 keycap_asterisk
  2A+FE0F+20E3 keycap_*
  30+20E3 keycap_digit_zero
  30+FE0F+20E3 keycap_0 zero
  31+20E3 keycap_digit_one
  31+FE0F+20E3 keycap_1 one
  32+20E3 keycap_digit_two
  32+FE0F+20E3 keycap_2 two
  33+20E3 keycap_digit_three
  33+FE0F+20E3 keycap_3 three
  34+20E3 keycap_digit_four
  34+FE0F+20E3 four keycap_4
  35+20E3 keycap_digit_five
  35+FE0F+20E3 five keycap_5
  36+20E3 keycap_digit_six
  36+FE0F+20E3 keycap_6 six
  37+20E3 keycap_digit_seven
  37+FE0F+20E3 keycap_7 seven
  38+20E3 keycap_digit_eight
  38+FE0F+20E3 eight keycap_8
  39+20E3 keycap_digit_nine
  39+FE0F+20E3 keycap_9 nine
  A9 copy" ++ "right
  AE registered
  203C bangbang double_exclamation_mark
  2049 exclamation_question_mark interrobang
  2122 tm trade_mark
  2139 information information_source
  2194 left-right_arrow left_right_arrow
  2195 arrow_up_down up-down_arrow
  2196 arrow_upper_left up-left_arrow
  2197 arrow_upper_right up-right_arrow
  2198 arrow_lower_right down-right_arrow
  2199 arrow_lower_left down-left_arrow
  21A9 leftwards_arrow_with_hook right_arrow_curving_left
  21AA arrow_right_hook left_arrow_curving_right
  231A watch
  231B hourglass hourglass_done
  2328 keyboard
  2388 helm_symbol
  23CF eject_button eject_symbol
  23E9 fast-forward_button fast_forward
  23EA fast_reverse_button rewind
  23EB arrow_double_up fast_up_button
  23EC arrow_double_down fast_down_button
  23ED black_right__pointing_double_triangle_with_vertical_bar next_track_button
  23EE black_left__pointing_double_triangle_with_vertical_bar last_track_button
  23EF black_right__pointing_triangle_with_double_vertical_bar play_or_pause_button
  23F0 alarm_clock
  23F1 stopwatch
  23F2 timer_clock
  23F3 hourglass_flowing_sand hourglass_not_done
  23F8 double_vertical_bar pause_button
  23F9 black_square_for_stop stop_button
  23FA black_circle_for_record record_button
  24C2 circled_m m
  25AA black_small_square
  25AB white_small_square
  25B6 arrow_forward play_button
  25C0 arrow_backward reverse_button
  25FB white_medium_square
  25FC black_medium_square
  25FD white_medium-small_square white_medium_small_square
  25FE black_medium-small_square black_medium_small_square
  2600 sun sunny
  2601 cloud
  2602 umbrella
  2603 snowman
  2604 comet
  260E phone telephone
  2611 ballot_box_with_check
  2614 umbrella_with_rain_drops
  2615 coffee hot_beverage
  2618 shamrock
  261D point_up
  2620 skull_and_crossbones
  2622 radioactive radioactive_sign
  2623 biohazard biohazard_sign
  2626 orthodox_cross
  262A star_and_crescent
  262E peace_symbol
  262F yin_yang
  2638 wheel_of_dharma
  2639 frowning_face white_frowning_face
  263A relaxed smiling_face
  2640 female_sign
  2642 male_sign
  2648 aries
  2649 taurus
  264A gemini
  264B cancer
  264C leo
  264D virgo
  264E libra
  264F scorpio scorpius
  2650 sagittarius
  2651 capricorn
  2652 aquarius
  2653 pisces
  265F chess_pawn
  2660 spade_suit spades
  2663 club_suit clubs
  2665 heart_suit hearts
  2666 diamond_suit diamonds
  2668 hot_springs hotsprings
  267B recycle recycling_symbol
  267E infinity
  267F wheelchair wheelchair_symbol
  2692 hammer_and_pick
  2693 anchor
  2694 crossed_swords
  2695 medical_symbol
  2696 balance_scale scales
  2697 alembic
  2699 gear
  269B atom_symbol
  269C fleur-de-lis fleur__de__lis
  26A0 warning
  26A1 high_voltage zap
  26AA white_circle
  26AB black_circle
  26B0 coffin
  26B1 funeral_urn
  26BD soccer soccer_ball
  26BE baseball
  26C4 snowman_without_snow
  26C5 partly_sunny sun_behind_cloud
  26C8 cloud_with_lightning_and_rain thunder_cloud_and_rain
  26CE ophiuchus
  26CF pick
  26D1 helmet_with_white_cross rescue_worker’s_helmet
  26D3 chains
  26D4 no_entry
  26E9 shinto_shrine
  26EA church
  26F0 mountain
  26F1 umbrella_on_ground
  26F2 fountain
  26F3 flag_in_hole golf
  26F4 ferry
  26F5 boat sailboat
  26F7 skier
  26F8 ice_skate
  26F9 person_with_ball
  26FA tent
  26FD fuel_pump fuelpump
  2702 scissors
  2705 white_check_mark white_heavy_check_mark
  2708 airplane
  2709 email envelope
  270A fist
  270B hand
  270C v
  270F pencil2
  2712 black_nib
  2714 heavy_check_mark
  2716 heavy_multiplication_x
  271D latin_cross
  2721 star_of_david
  2728 sparkles
  2733 eight-spoked_asterisk eight_spoked_asterisk
  2734 eight-pointed_star eight_pointed_black_star
  2744 snowflake
  2747 sparkle
  274C cross_mark x
  274E cross_mark_button negative_squared_cross_mark
  2753 question question_mark
  2754 grey_question white_question_mark
  2755 grey_exclamation white_exclamation_mark
  2757 exclamation exclamation_mark heavy_exclamation_mark
  2763 heavy_heart_exclamation heavy_heart_exclamation_mark_ornament
  2764 heart red_heart
  2795 heavy_plus_sign
  2796 heavy_minus_sign
  2797 heavy_division_sign
  27A1 arrow_right right_arrow
  27B0 curly_loop
  27BF double_curly_loop loop
  2934 arrow_heading_up right_arrow_curving_up
  2935 arrow_heading_down right_arrow_curving_down
  2B05 arrow_left left_arrow
  2B06 arrow_up up_arrow
  2B07 arrow_down down_arrow
  2B1B black_large_square
  2B1C white_large_square
  2B50 star white_medium_star
  2B55 heavy_large_circle o
  3030 wavy_dash
  303D part_alternation_mark
  3297 congratulations japanese_congratulations_button
  3299 japanese_secret_button secret"

end FrontEnd.Text.Emoji
